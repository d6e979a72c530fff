import Rollout.Entity
import Rollout.Failure
import Rollout.Spec
import Rollout.User

/-!
# Overrides

An override forces an entity to a value, for every user or for the users with a given id. The most
specific override that applies to a user wins: user id, then custom ids by id type, then everyone
(`Overrides.resolve?`).
-/

namespace Rollout

/-- What an override forces. -/
inductive OverrideValue where
  | gate (value : Bool)
  | config (members : Dict Json)
  /-- A group of an experiment, looked up in the specs of the day. -/
  | group (name : String)
  deriving Repr

/-- What an override is for. -/
structure OverrideKey where
  kind : EntityKind
  name : String
  /-- The user or custom id, or `none` for every user. -/
  targetingId : Option String
  deriving Repr, DecidableEq

/-- The outcome that an override forces. -/
structure ForcedOutcome where
  value : Bool
  members : Dict Json := ∅
  groupName : Option String := none
  deriving Repr

/-- The overrides in force, each key once. -/
structure Overrides where
  entries : List (OverrideKey × OverrideValue) := []
  deriving Repr

namespace OverrideValue

/-- Why the value does not fit an entity, if it does not. -/
def fault? (v : OverrideValue) (kind : EntityKind) (name : String) : Option OverrideFault :=
  match kind, v with
  | .gate, .gate _ => none
  | .gate, _ => some (.gateNeedsBool name)
  | kind, .gate _ => some (.boolForOther kind.label name)
  | .experiment, .group _ => none
  | kind, .group _ => some (.groupForOther kind.label name)
  | _, .config _ => none

/-- What the value forces. A group that the spec does not have forces nothing. -/
def outcome? (v : OverrideValue) (spec : Option Spec) : Option ForcedOutcome :=
  match v with
  | .gate value => some { value }
  | .config members => some { value := true, members }
  | .group name =>
    (spec.bind fun s => s.rules.find? (·.groupName == some name)).map fun rule =>
      { value := rule.returnValue.passing, members := rule.returnValue.members,
        groupName := some name }

end OverrideValue

namespace Overrides

/-- The value of a key. -/
def get? (o : Overrides) (k : OverrideKey) : Option OverrideValue := o.entries.lookup k

/-- Set an override, unless its value does not fit the entity. -/
def set (o : Overrides) (k : OverrideKey) (v : OverrideValue) : Except Failure Overrides :=
  match v.fault? k.kind k.name with
  | some fault => .error (.invalidOverride fault)
  | none => .ok { entries := (k, v) :: o.entries.filter (·.1 != k) }

/-- Remove an override; also whether there was one. -/
def remove (o : Overrides) (k : OverrideKey) : Bool × Overrides :=
  ((o.get? k).isSome, { entries := o.entries.filter (·.1 != k) })

/-- Whether no override is in force. -/
def isEmpty (o : Overrides) : Bool := o.entries.isEmpty

/-- The ids by which overrides reach a user, most specific first. -/
def targetingIds (u : User) : List (Option String) :=
  u.userId.toList.map some ++ u.customIds.toList.map (fun e => some e.2) ++ [none]

theorem lookup_filter_ne (k k' : OverrideKey) (l : List (OverrideKey × OverrideValue)) :
    (l.filter (·.1 != k)).lookup k' = if k' = k then none else l.lookup k' := by
  induction l with
  | nil => simp
  | cons e l ih =>
    obtain ⟨e, v⟩ := e
    by_cases he : e = k
    · have hdrop : ((e, v) :: l).filter (·.1 != k) = l.filter (·.1 != k) := by simp [he]
      rw [hdrop, ih]
      by_cases hk : k' = k
      · simp [hk]
      · have hne : (k' == e) = false := by simpa [he] using hk
        simp [hk, List.lookup_cons, hne]
    · have hkeep : ((e, v) :: l).filter (·.1 != k) = (e, v) :: l.filter (·.1 != k) := by simp [he]
      rw [hkeep, List.lookup_cons, List.lookup_cons, ih]
      by_cases hk : k' = k
      · have hne : (k' == e) = false := by simpa [hk] using Ne.symm he
        simp [hk, hk ▸ hne]
      · simp [hk]

theorem get?_remove (o : Overrides) (k k' : OverrideKey) :
    (o.remove k).2.get? k' = if k' = k then none else o.get? k' :=
  lookup_filter_ne k k' o.entries

/-- An override whose value fits the entity is set, and no other one changes. -/
theorem get?_of_set {o o' : Overrides} {k : OverrideKey} {v : OverrideValue}
    (h : o.set k v = .ok o') (k' : OverrideKey) :
    o'.get? k' = if k' = k then some v else o.get? k' := by
  unfold set at h
  split at h
  · cases h
  · cases h
    show ((k, v) :: o.entries.filter (·.1 != k)).lookup k' = _
    rw [List.lookup_cons, lookup_filter_ne]
    by_cases hk : k' = k
    · simp [hk]
    · have hne : (k' == k) = false := by simpa using hk
      simp [hk, hne, get?]

/-- The outcome that the overrides force on a user, if any. -/
def resolve? (o : Overrides) (kind : EntityKind) (name : String) (u : User)
    (spec : Option Spec) : Option ForcedOutcome :=
  (targetingIds u).findSome? fun id => (o.get? ⟨kind, name, id⟩).bind (·.outcome? spec)

end Overrides

end Rollout
