import Mathlib.Logic.Basic

/-!
# Drafts

The crate `clash-verge-draft`: committed data and an optional draft of it.
Every method holds the mutex of the pair from its start to its end.
-/

namespace KyClash.Configuration

structure Draft (T : Type) where
  committed : T
  draft : Option T

namespace Draft

variable {T : Type} (data : Draft T)

def new (committed : T) : Draft T where
  committed
  draft := none

def dataArc : T := data.committed

/-- The draft if there is one. -/
def latestArc : T := data.draft.getD data.committed

/-- The edit works on the draft, or on a copy of the committed data. -/
def editDraft (edit : T → T) : Draft T :=
  { data with draft := some (edit data.latestArc) }

def apply : Draft T :=
  match data.draft with
  | some draft => { committed := draft, draft := none }
  | none => data

def discard : Draft T :=
  { data with draft := none }

@[simp]
theorem dataArc_apply : data.apply.dataArc = data.latestArc := by
  rcases data with ⟨committed, _ | draft⟩ <;> rfl

@[simp]
theorem latestArc_apply : data.apply.latestArc = data.latestArc := by
  rcases data with ⟨committed, _ | draft⟩ <;> rfl

/-- Two drafts that show the same data to every reader.  A draft that equals
the committed data cannot be told from no draft. -/
structure Agrees (left right : Draft T) : Prop where
  committed : left.dataArc = right.dataArc
  latest : left.latestArc = right.latestArc

namespace Agrees

variable {left right : Draft T}

theorem editDraft (agrees : Agrees left right) (edit : T → T) :
    Agrees (left.editDraft edit) (right.editDraft edit) where
  committed := agrees.committed
  latest := congrArg edit agrees.latest

theorem apply (agrees : Agrees left right) : Agrees left.apply right.apply where
  committed := by simpa using agrees.latest
  latest := by simpa using agrees.latest

end Agrees

end Draft

end KyClash.Configuration
