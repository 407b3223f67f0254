import ActionLookup.Schema.Problem

/-!
What is told while a schema is loaded, generated from and written, and runs that tell it.

A run ends in a value or in a problem; what was told before a problem is kept.
-/

namespace ActionLookup

inductive Level where
  | debug
  | info
  | warn
  deriving DecidableEq, Repr

def Level.text : Level → String
  | .debug => "DEBUG"
  | .info => "INFO"
  | .warn => "WARN"

inductive Event where
  | skippedAction (action map control : String)
  | loadedAsset (name : String) (groups bindings : Nat)
  | enteredGroup (name : String) (bindings : Nat)
  | passedOver (binding group : String)
  | unreachable (shadowed : Shadowed)
  | generated (file schema : String) (groups bindings : Nat)
  | wrote (path : String)
  | upToDate (path : String)
  deriving DecidableEq, Repr

namespace Event

def level : Event → Level
  | .skippedAction .. => .debug
  | .loadedAsset .. => .debug
  | .enteredGroup .. => .debug
  | .passedOver .. => .debug
  | .unreachable _ => .warn
  | .generated .. => .info
  | .wrote _ => .info
  | .upToDate _ => .info

def target : Event → String
  | .skippedAction .. => "inputgen_schema::parser"
  | .loadedAsset .. => "inputgen_schema::parser"
  | .enteredGroup .. => "inputgen_codegen::csharp::dispatch"
  | .passedOver .. => "inputgen_codegen::csharp::dispatch"
  | .unreachable _ => "inputgen_codegen::generator"
  | .generated .. => "inputgen_codegen::generator"
  | .wrote _ => "inputgen_codegen::generator"
  | .upToDate _ => "inputgen"

def message : Event → String
  | .skippedAction action map control =>
      s!"Skipping action '{action}' in map '{map}': unsupported control type '{control}'"
  | .loadedAsset name groups bindings => s!"Loaded asset '{name}': {groups} groups, {bindings} bindings"
  | .enteredGroup name bindings => s!"Emitting group '{name}' ({bindings} bindings)"
  | .passedOver binding group => s!"Binding '{binding}' in group '{group}' is shadowed in unqualified lookup"
  | .unreachable s =>
      s!"{s.valueType.text} binding '{s.name}' in group '{s.group}' is unreachable by name alone; '{s.firstGroup}' wins"
  | .generated file schema groups bindings =>
      s!"Generated {file} from '{schema}': {groups} groups, {bindings} bindings"
  | .wrote path => s!"Wrote {path}"
  | .upToDate path => s!"{path} is up to date"

end Event

structure Report (ε α : Type) where
  events : List Event
  result : Except ε α

namespace Report

variable {ε ε' α β : Type}

def ok (a : α) : Report ε α := ⟨[], .ok a⟩

def fail (e : ε) : Report ε α := ⟨[], .error e⟩

def tell (events : List Event) : Report ε Unit := ⟨events, .ok ()⟩

def ofExcept (result : Except ε α) : Report ε α := ⟨[], result⟩

def andThen (r : Report ε α) (next : α → Report ε β) : Report ε β :=
  match r.result with
  | .error e => ⟨r.events, .error e⟩
  | .ok a => ⟨r.events ++ (next a).events, (next a).result⟩

instance : Monad (Report ε) where
  pure := ok
  bind := andThen

def mapError (f : ε → ε') (r : Report ε α) : Report ε' α :=
  ⟨r.events, match r.result with
    | .error e => .error (f e)
    | .ok a => .ok a⟩

@[simp] theorem pure_eq (a : α) : (pure a : Report ε α) = ok a := rfl

@[simp] theorem bind_eq (r : Report ε α) (next : α → Report ε β) : r >>= next = r.andThen next := rfl

@[simp] theorem ok_andThen (a : α) (next : α → Report ε β) : (ok a).andThen next = next a := by
  simp [ok, andThen]

@[simp] theorem fail_andThen (e : ε) (next : α → Report ε β) :
    (fail e : Report ε α).andThen next = fail e := rfl

theorem result_andThen_eq_ok {r : Report ε α} {next : α → Report ε β} {b : β} :
    (r.andThen next).result = .ok b ↔ ∃ a, r.result = .ok a ∧ (next a).result = .ok b := by
  unfold andThen
  cases h : r.result with
  | error e => simp
  | ok a => simp

theorem result_andThen_eq_error {r : Report ε α} {next : α → Report ε β} {e : ε} :
    (r.andThen next).result = .error e ↔
      r.result = .error e ∨ ∃ a, r.result = .ok a ∧ (next a).result = .error e := by
  unfold andThen
  cases h : r.result with
  | error e => simp
  | ok a => simp

theorem andThen_assoc {γ : Type} (r : Report ε α) (next : α → Report ε β) (last : β → Report ε γ) :
    (r.andThen next).andThen last = r.andThen fun a => (next a).andThen last := by
  obtain ⟨events, result⟩ := r
  cases result with
  | error e => rfl
  | ok a =>
      simp only [andThen]
      cases (next a).result with
      | error e => rfl
      | ok b => simp

end Report

end ActionLookup
