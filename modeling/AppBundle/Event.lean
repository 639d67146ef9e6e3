import AppBundle.Provider.Kind

/-! # Events

Making providers, judging applications and resolving them is accompanied by events. A computation
that reports events is a `Logged`: the events in the order in which they arose, and a result or an
error. Events before an error are kept.
-/

namespace AppBundle

/-- How important an event is. -/
inductive Level where
  | debug
  | info
  | warn
deriving DecidableEq, Repr

/-- Something that happened on the way to a result. -/
inductive Event where
  | creatingProvider (kind : ProviderKind) (identifier : Identifier) (isLazy : Bool)
  | validated (application : String) (files interpreters commands : Nat)
  | resolving (application : String) (platform : Platform)
  | noDistribution (interpreter : Identifier) (platform : Platform)
  | chosen (interpreter : Identifier) (url : String) (isLazy : Bool)
  | unavailableReference (text interpreter : String) (platform : Platform)
  | resolved (application : String) (platform : Platform) (eager onDemand unavailable : Nat)
deriving DecidableEq

namespace Event

/-- The importance of an event. -/
def level : Event → Level
  | creatingProvider .. | validated .. | noDistribution .. | chosen .. => .debug
  | resolving .. | resolved .. => .info
  | unavailableReference .. => .warn

/-- The words for a truth value. -/
def boolText (value : Bool) : String := if value then "true" else "false"

/-- The words for an event. -/
def message : Event → String
  | creatingProvider kind identifier isLazy =>
    "creating " ++ kind.name ++ " provider for '" ++ identifier.text ++ "' (lazy=" ++
      boolText isLazy ++ ")"
  | validated application files interpreters commands =>
    "application '" ++ application ++ "' valid: " ++ toString files ++ " files, " ++
      toString interpreters ++ " interpreters, " ++ toString commands ++ " commands"
  | resolving application platform =>
    "resolving application '" ++ application ++ "' for " ++ platform.name
  | noDistribution interpreter platform =>
    "interpreter '" ++ interpreter.text ++ "' has no distribution for " ++ platform.name
  | chosen interpreter url isLazy =>
    "interpreter '" ++ interpreter.text ++ "' -> " ++ url ++ " (lazy=" ++ boolText isLazy ++ ")"
  | unavailableReference text interpreter platform =>
    "'" ++ text ++ "' references interpreter '" ++ interpreter ++
      "' which has no distribution for " ++ platform.name
  | resolved application platform eager onDemand unavailable =>
    "resolved '" ++ application ++ "' for " ++ platform.name ++ ": " ++ toString eager ++
      " eager, " ++ toString onDemand ++ " lazy, " ++ toString unavailable ++ " unavailable"

end Event

/-- A result or an error, with the events that led to it. -/
structure Logged (ε α : Type) where
  events : List Event
  result : Except ε α

namespace Logged

variable {ε ε' α β : Type}

/-- A computation without events. -/
def ofExcept (result : Except ε α) : Logged ε α := ⟨[], result⟩

/-- A computation that only reports an event. -/
def emit (event : Event) : Logged ε Unit := ⟨[event], .ok ()⟩

/-- One computation after another. The second one is not begun after an error. -/
def andThen (first : Logged ε α) (next : α → Logged ε β) : Logged ε β :=
  match first.result with
  | .ok value => ⟨first.events ++ (next value).events, (next value).result⟩
  | .error error => ⟨first.events, .error error⟩

instance : Monad (Logged ε) where
  pure value := ofExcept (.ok value)
  bind := andThen

instance : LawfulMonad (Logged ε) :=
  LawfulMonad.mk' (Logged ε)
    (by
      rintro α ⟨events, result⟩
      cases result <;> simp [Functor.map, andThen, ofExcept])
    (fun _ _ => by simp [bind, pure, andThen, ofExcept])
    (by
      rintro α β γ ⟨events, result⟩ f g
      cases result with
      | error => rfl
      | ok value =>
        cases second : (f value).result <;> simp [bind, andThen, second])

/-- The same events with another error. -/
def mapError (f : ε → ε') (logged : Logged ε α) : Logged ε' α :=
  ⟨logged.events, logged.result.mapError f⟩

end Logged

end AppBundle
