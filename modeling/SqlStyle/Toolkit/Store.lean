import SqlStyle.Text.Quoted
import SqlStyle.Toolkit.Basic

/-! # Keeping toolkits

Toolkits are made by a factory, once per dialect, and kept. Changing the factory or resetting the
store forgets them. Making a toolkit may have effects on some state `σ` and may fail; a failed
attempt is not kept, so that the next request tries again. A request names a dialect, and one that
names none is refused before anything is made. -/

namespace SqlStyle

/-- Makes the toolkit of a dialect. -/
abbrev Factory (σ τ : Type) := Dialect → σ → Except Fault τ × σ

/-- Why a request is given no toolkit. -/
inductive ToolkitError where
  /-- No dialect has the name. -/
  | unknownDialect (name : String)
  /-- The factory failed. -/
  | failed (fault : Fault)
deriving Repr, DecidableEq

def ToolkitError.message : ToolkitError → String
  | unknownDialect name => s!"{Text.quoted name} is not a valid Dialect"
  | failed fault => fault.message

structure ToolkitStore (σ τ : Type) where
  /-- The factory in use if none was registered. -/
  standard : Factory σ τ
  registered : Option (Factory σ τ) := none
  kept : List (Dialect × τ) := []

namespace ToolkitStore

variable {σ τ : Type}

/-- The factory in use. -/
def factory (s : ToolkitStore σ τ) : Factory σ τ := s.registered.getD s.standard

/-- Uses another factory from now on. -/
def register (s : ToolkitStore σ τ) (f : Factory σ τ) : ToolkitStore σ τ :=
  { s with registered := some f, kept := [] }

/-- Goes back to the standard factory. -/
def reset (s : ToolkitStore σ τ) : ToolkitStore σ τ :=
  { s with registered := none, kept := [] }

/-- The toolkit of a dialect: the one kept, or a new one. -/
def get (s : ToolkitStore σ τ) (d : Dialect) (world : σ) :
    Except Fault τ × ToolkitStore σ τ × σ :=
  match s.kept.lookup d with
  | some toolkit => (.ok toolkit, s, world)
  | none =>
    match s.factory d world with
    | (.ok toolkit, world) => (.ok toolkit, { s with kept := (d, toolkit) :: s.kept }, world)
    | (.error fault, world) => (.error fault, s, world)

/-- The toolkit of the dialect with a name. -/
def request (s : ToolkitStore σ τ) (name : String) (world : σ) :
    Except ToolkitError τ × ToolkitStore σ τ × σ :=
  match Dialect.ofName? name with
  | none => (.error (.unknownDialect name), s, world)
  | some d =>
    let (answer, s, world) := s.get d world
    (answer.mapError .failed, s, world)

end ToolkitStore

end SqlStyle
