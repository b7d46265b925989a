import AlarmClock.Device.Basic

/-! What can be done to a device from outside. Changes of the alarms go through the store, and
the device goes on with the store that they leave. -/

namespace AlarmClock.Device

variable {π : Type}

/-- The device with what a change left of its store, and what the change sent behind the events that wait. -/
def withStore (d : Device π) (x : Act (Attempt Unit Store)) : Act (Attempt Unit (Device π)) :=
  ⟨x.value.map fun s => { d with store := s, queue := d.queue ++ x.events }, x.effects⟩

/-- Adds an enabled alarm with the timeout of the configuration. -/
def newAlarm (d : Device π) (id : Uuid) (media : Url) (time : TimeOfDay) (period : Period) :
    Act (Attempt Unit (Device π)) :=
  d.withStore (d.store.add (Alarm.create id media time period d.store.document.alarmTimeout))

def deleteAlarm (d : Device π) (id : Uuid) : Act (Attempt Unit (Device π)) := d.withStore (d.store.delete id)

/-- Gives an alarm another time and period. -/
def reschedule (d : Device π) (id : Uuid) (time : TimeOfDay) (period : Period) : Act (Attempt Unit (Device π)) :=
  d.withStore (d.store.update id (Alarm.editAll [.time time, .period period]))

def setEnabled (d : Device π) (id : Uuid) (enabled : Bool) : Act (Attempt Unit (Device π)) :=
  d.withStore (d.store.update id (Alarm.editAll [.enabled enabled]))

/-- The same for what it left of its sleep timer and its store. -/
def withTimer (d : Device π) (x : Act (Attempt Unit (SleepTimer × Store))) : Act (Attempt Unit (Device π)) :=
  ⟨x.value.map fun (t, s) => { d with sleepTimer := t, store := s, queue := d.queue ++ x.events }, x.effects⟩

/-- Sets the time without activity before standby. -/
def setSleepTimeout (d : Device π) (now : DateTime) (timeout : Span) : Act (Attempt Unit (Device π)) :=
  d.withTimer (d.sleepTimer.setTimeout d.store now timeout)

/-- Starts the countdown to standby anew. -/
def resetSleep (d : Device π) (now : DateTime) : Act (Device π) :=
  queueUp do
    let sleepTimer ← SleepTimer.reset now d.sleepTimeout
    pure { d with sleepTimer := sleepTimer }

/-- The user has heard the alarm. -/
def stopAlarm [Player π] (d : Device π) : Act (Device π) :=
  queueUp do
    note .stoppedByUser
    let monitor ← d.monitor.silence
    pure { d with monitor := monitor }

/-- The player reports something of its own accord. -/
def playerEvent (d : Device π) (e : PlayerEvent) : Act (Device π) :=
  queueUp do
    emit (.player e)
    pure d

end AlarmClock.Device
