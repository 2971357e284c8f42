import ShutterGateway.Command.Basic

/-!
Completions, the handles by which a caller gets a submitted command back. The command arrives in
a slot that can be emptied once. When the processor goes away without an answer, the submitted
command comes back as failed by the shutdown. Whoever has already emptied the slot must not wait
for it: waiting on an empty slot that nobody can fill any more is a fault.
-/

namespace ShutterGateway

/-- The slot in which an answer arrives. -/
inductive Slot where
  | empty
  | answered (command : Command)
  /-- Nobody will answer any more. -/
  | abandoned
  /-- The answer, or the news that there is none, has been taken out. -/
  | spent

/-- The handle of a submitted command. -/
structure Completion where
  submitted : Command
  slot : Slot := .empty
  taken : Bool := false

/-- What waiting for a command leads to. -/
inductive Awaited where
  /-- The command has not come back yet. -/
  | later
  | returned (command : Command)
  /-- The slot was emptied before. -/
  | fault

namespace Completion

/-- An answer arrives. Only the first one counts. -/
def answer (command : Command) (completion : Completion) : Completion :=
  match completion.slot with
  | .empty => { completion with slot := .answered command }
  | _ => completion

/-- The processor goes away. -/
def abandon (completion : Completion) : Completion :=
  match completion.slot with
  | .empty => { completion with slot := .abandoned }
  | _ => completion

/-- The command without waiting, if it has come back and was not taken before. -/
def tryTake (completion : Completion) : Option Command × Completion :=
  if completion.taken then (none, completion)
  else
    match completion.slot with
    | .answered command => (some command, { completion with slot := .spent, taken := true })
    | .abandoned =>
      (some (completion.submitted.fail .shutdown),
        { completion with slot := .spent, taken := true })
    | _ => (none, completion)

/-- The command, once it has come back. -/
def wait (completion : Completion) : Awaited :=
  match completion.slot with
  | .empty => .later
  | .answered command => .returned command
  | .abandoned => .returned (completion.submitted.fail .shutdown)
  | .spent => .fault

end Completion

end ShutterGateway
