import ShutterGateway.Text.Label

/-!
How far a node has come with an order, and why.
-/

namespace ShutterGateway

/-- How far a node has come with an order. -/
inductive RunStatus where
  | completed
  | failed
  | active
  /-- A number without a name of its own. -/
  | unknown (code : UInt8)
  deriving DecidableEq, Repr

namespace RunStatus

/-- The value with a number. -/
def ofCode : UInt8 → RunStatus
  | 0 => completed
  | 1 => failed
  | 2 => active
  | code => unknown code

/-- The number of a value. -/
def code : RunStatus → UInt8
  | completed => 0
  | failed => 1
  | active => 2
  | unknown code => code

/-- The label of a value. -/
def label : RunStatus → Label
  | completed => .named "Completed"
  | failed => .named "Failed"
  | active => .named "Active"
  | unknown code => .numbered "Unknown" code.toNat

end RunStatus

/-- Why a node is in its run status. -/
inductive StatusReply where
  | unknown
  | ok
  | noContact
  | manuallyOperated
  | blocked
  | wrongSystemKey
  | priorityLevelLocked
  | reachedWrongPosition
  | errorDuringExecution
  | noExecution
  | calibrating
  | powerConsumptionTooHigh
  | powerConsumptionTooLow
  | lockPositionOpen
  | motionTimeTooLongCommunicationEnded
  | thermalProtection
  | productNotOperational
  | filterMaintenanceNeeded
  | batteryLevel
  | targetModified
  | modeNotImplemented
  | commandIncompatibleToMovement
  | userAction
  | deadBoltError
  | automaticCycleEngaged
  | wrongLoadConnected
  | colourNotReachable
  | targetNotReachable
  | badIndexReceived
  | commandOverruled
  | nodeWaitingForPower
  | informationCode
  | parameterLimited
  | limitationByLocalUser
  | limitationByUser
  | limitationByRain
  | limitationByTimer
  | limitationByUps
  | limitationByUnknownDevice
  | limitationBySaac
  | limitationByWind
  | limitationByMyself
  | limitationByAutomaticCycle
  | limitationByEmergency
  /-- A number without a name of its own. -/
  | other (code : UInt8)
  deriving DecidableEq, Repr

namespace StatusReply

/-- The value with a number. -/
def ofCode : UInt8 → StatusReply
  | 0x00 => unknown
  | 0x01 => ok
  | 0x02 => noContact
  | 0x03 => manuallyOperated
  | 0x04 => blocked
  | 0x05 => wrongSystemKey
  | 0x06 => priorityLevelLocked
  | 0x07 => reachedWrongPosition
  | 0x08 => errorDuringExecution
  | 0x09 => noExecution
  | 0x0a => calibrating
  | 0x0b => powerConsumptionTooHigh
  | 0x0c => powerConsumptionTooLow
  | 0x0d => lockPositionOpen
  | 0x0e => motionTimeTooLongCommunicationEnded
  | 0x0f => thermalProtection
  | 0x10 => productNotOperational
  | 0x11 => filterMaintenanceNeeded
  | 0x12 => batteryLevel
  | 0x13 => targetModified
  | 0x14 => modeNotImplemented
  | 0x15 => commandIncompatibleToMovement
  | 0x16 => userAction
  | 0x17 => deadBoltError
  | 0x18 => automaticCycleEngaged
  | 0x19 => wrongLoadConnected
  | 0x1a => colourNotReachable
  | 0x1b => targetNotReachable
  | 0x1c => badIndexReceived
  | 0x1d => commandOverruled
  | 0x1e => nodeWaitingForPower
  | 0xdf => informationCode
  | 0xe0 => parameterLimited
  | 0xe1 => limitationByLocalUser
  | 0xe2 => limitationByUser
  | 0xe3 => limitationByRain
  | 0xe4 => limitationByTimer
  | 0xe6 => limitationByUps
  | 0xe7 => limitationByUnknownDevice
  | 0xea => limitationBySaac
  | 0xeb => limitationByWind
  | 0xec => limitationByMyself
  | 0xed => limitationByAutomaticCycle
  | 0xee => limitationByEmergency
  | code => other code

/-- The number of a value. -/
def code : StatusReply → UInt8
  | unknown => 0x00
  | ok => 0x01
  | noContact => 0x02
  | manuallyOperated => 0x03
  | blocked => 0x04
  | wrongSystemKey => 0x05
  | priorityLevelLocked => 0x06
  | reachedWrongPosition => 0x07
  | errorDuringExecution => 0x08
  | noExecution => 0x09
  | calibrating => 0x0a
  | powerConsumptionTooHigh => 0x0b
  | powerConsumptionTooLow => 0x0c
  | lockPositionOpen => 0x0d
  | motionTimeTooLongCommunicationEnded => 0x0e
  | thermalProtection => 0x0f
  | productNotOperational => 0x10
  | filterMaintenanceNeeded => 0x11
  | batteryLevel => 0x12
  | targetModified => 0x13
  | modeNotImplemented => 0x14
  | commandIncompatibleToMovement => 0x15
  | userAction => 0x16
  | deadBoltError => 0x17
  | automaticCycleEngaged => 0x18
  | wrongLoadConnected => 0x19
  | colourNotReachable => 0x1a
  | targetNotReachable => 0x1b
  | badIndexReceived => 0x1c
  | commandOverruled => 0x1d
  | nodeWaitingForPower => 0x1e
  | informationCode => 0xdf
  | parameterLimited => 0xe0
  | limitationByLocalUser => 0xe1
  | limitationByUser => 0xe2
  | limitationByRain => 0xe3
  | limitationByTimer => 0xe4
  | limitationByUps => 0xe6
  | limitationByUnknownDevice => 0xe7
  | limitationBySaac => 0xea
  | limitationByWind => 0xeb
  | limitationByMyself => 0xec
  | limitationByAutomaticCycle => 0xed
  | limitationByEmergency => 0xee
  | other code => code

/-- The label of a value. -/
def label : StatusReply → Label
  | unknown => .named "Unknown"
  | ok => .named "Ok"
  | noContact => .named "NoContact"
  | manuallyOperated => .named "ManuallyOperated"
  | blocked => .named "Blocked"
  | wrongSystemKey => .named "WrongSystemKey"
  | priorityLevelLocked => .named "PriorityLevelLocked"
  | reachedWrongPosition => .named "ReachedWrongPosition"
  | errorDuringExecution => .named "ErrorDuringExecution"
  | noExecution => .named "NoExecution"
  | calibrating => .named "Calibrating"
  | powerConsumptionTooHigh => .named "PowerConsumptionTooHigh"
  | powerConsumptionTooLow => .named "PowerConsumptionTooLow"
  | lockPositionOpen => .named "LockPositionOpen"
  | motionTimeTooLongCommunicationEnded => .named "MotionTimeTooLongCommunicationEnded"
  | thermalProtection => .named "ThermalProtection"
  | productNotOperational => .named "ProductNotOperational"
  | filterMaintenanceNeeded => .named "FilterMaintenanceNeeded"
  | batteryLevel => .named "BatteryLevel"
  | targetModified => .named "TargetModified"
  | modeNotImplemented => .named "ModeNotImplemented"
  | commandIncompatibleToMovement => .named "CommandIncompatibleToMovement"
  | userAction => .named "UserAction"
  | deadBoltError => .named "DeadBoltError"
  | automaticCycleEngaged => .named "AutomaticCycleEngaged"
  | wrongLoadConnected => .named "WrongLoadConnected"
  | colourNotReachable => .named "ColourNotReachable"
  | targetNotReachable => .named "TargetNotReachable"
  | badIndexReceived => .named "BadIndexReceived"
  | commandOverruled => .named "CommandOverruled"
  | nodeWaitingForPower => .named "NodeWaitingForPower"
  | informationCode => .named "InformationCode"
  | parameterLimited => .named "ParameterLimited"
  | limitationByLocalUser => .named "LimitationByLocalUser"
  | limitationByUser => .named "LimitationByUser"
  | limitationByRain => .named "LimitationByRain"
  | limitationByTimer => .named "LimitationByTimer"
  | limitationByUps => .named "LimitationByUps"
  | limitationByUnknownDevice => .named "LimitationByUnknownDevice"
  | limitationBySaac => .named "LimitationBySaac"
  | limitationByWind => .named "LimitationByWind"
  | limitationByMyself => .named "LimitationByMyself"
  | limitationByAutomaticCycle => .named "LimitationByAutomaticCycle"
  | limitationByEmergency => .named "LimitationByEmergency"
  | other code => .numbered "Other" code.toNat

end StatusReply

end ShutterGateway
