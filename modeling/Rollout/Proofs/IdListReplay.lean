import Mathlib.Data.List.Induction
import Rollout.IdList

/-!
# What the file of an id list says

The lines of a file are played one after another, and the last line about an id decides
(`IdList.contains_play`). A file that is written line by line can be played in pieces: what is
played is the same as if the pieces were one (`IdList.play_append`).
-/

namespace Rollout

namespace Text

theorem splitList_ne_nil (p : Char → Bool) (cs : List Char) : splitList p cs ≠ [] := by
  cases cs with
  | nil => simp [splitList]
  | cons c rest =>
    unfold splitList
    split
    · simp
    · split <;> simp

/-- What stands before a line break and what stands after it are cut apart. -/
theorem splitList_append_cons {p : Char → Bool} {c : Char} (hc : p c = true) (a b : List Char) :
    splitList p (a ++ c :: b) = splitList p a ++ splitList p b := by
  induction a with
  | nil => simp [splitList, hc]
  | cons x a ih =>
    rw [List.cons_append, splitList, splitList, ih]
    by_cases hx : p x = true
    · rw [if_pos hx, if_pos hx, List.cons_append]
    · rw [if_neg hx, if_neg hx]
      cases ha : splitList p a with
      | nil => exact absurd ha (splitList_ne_nil p a)
      | cons part parts => rfl

/-- Whether a text consists of whole lines, each of which is ended by a break. -/
def IsWhole (cs : List Char) : Prop := cs = [] ∨ ∃ body, cs = body ++ ['\n']

theorem utf8ByteSize_cons (c : Char) (cs : List Char) :
    (String.ofList (c :: cs)).utf8ByteSize = c.utf8Size + (String.ofList cs).utf8ByteSize := by
  have hcons : String.ofList (c :: cs) = String.singleton c ++ String.ofList cs := by
    rw [String.singleton_eq_ofList, ← String.ofList_append]
    rfl
  rw [hcons, String.utf8ByteSize_append, String.utf8ByteSize_singleton]

/-- A character that is ASCII takes one byte. -/
theorem utf8ByteSize_of_ascii {cs : List Char} (h : ∀ c ∈ cs, c.toNat < 128) :
    (String.ofList cs).utf8ByteSize = cs.length := by
  induction cs with
  | nil => rfl
  | cons c cs ih =>
    have hone : c.utf8Size = 1 :=
      Char.utf8Size_eq_one_iff.2 (Nat.le_of_lt_succ (h c List.mem_cons_self))
    have hrest := ih fun x hx => h x (List.mem_cons_of_mem c hx)
    rw [utf8ByteSize_cons, hone, hrest, List.length_cons, Nat.add_comm]

end Text

namespace Dict

variable {α : Type}

theorem contains_insert (d : Dict α) (k k' : String) (v : α) :
    (d.insert k v).contains k' = if k' = k then true else d.contains k' := by
  unfold contains
  rw [get?_insert]
  split <;> rfl

theorem contains_erase (d : Dict α) (k k' : String) :
    (d.erase k).contains k' = if k' = k then false else d.contains k' := by
  unfold contains
  rw [get?_erase]
  split <;> rfl

end Dict

namespace IdList

/-- The ids after the lines of a piece of a file. -/
def play (ids : Dict Unit) (cs : List Char) : Dict Unit :=
  (Text.lines (String.ofList cs)).foldl applyLine ids

theorem play_nil (ids : Dict Unit) : play ids [] = ids := by
  have hblank : applyLine ids "" = ids := rfl
  exact hblank

/-- Whole lines can be played apart from what comes after them. -/
theorem play_append (ids : Dict Unit) {a : List Char} (ha : Text.IsWhole a) (b : List Char) :
    play ids (a ++ b) = play (play ids a) b := by
  obtain rfl | ⟨body, rfl⟩ := ha
  · rw [play_nil, List.nil_append]
  · have hsplit := fun b => Text.splitList_append_cons (p := (· == '\n')) (c := '\n') rfl body b
    have hlines : ∀ b, Text.lines (String.ofList (body ++ '\n' :: b)) =
        Text.lines (String.ofList body) ++ Text.lines (String.ofList b) := by
      intro b
      simp only [Text.lines, String.toList_ofList, hsplit, List.map_append]
    have hplay : ∀ b, play ids (body ++ '\n' :: b) = play (play ids body) b := by
      intro b
      unfold play
      rw [hlines, List.foldl_append]
    rw [List.append_assoc, List.singleton_append, hplay, hplay [], play_nil]

/-! ### The last line about an id -/

/-- Whether a line adds the id or takes it away. -/
def isAbout (id line : String) : Bool := line = "+" ++ id || line = "-" ++ id

/-- The last line about the id, of those without blanks around them, adds it. -/
def Adds (cs : List Char) (id : String) : Prop :=
  (((Text.lines (String.ofList cs)).map Text.trim).filter (isAbout id)).getLast? = some ("+" ++ id)

instance (cs : List Char) (id : String) : Decidable (Adds cs id) :=
  inferInstanceAs (Decidable (_ = _))

/-- A line decides about the id that it is about, and about no other one. -/
theorem contains_applyLine (ids : Dict Unit) (line id : String) :
    (applyLine ids line).contains id =
      if isAbout id (Text.trim line) then decide (Text.trim line = "+" ++ id)
      else ids.contains id := by
  have hplus : Text.trim line = "+" ++ id ↔ (Text.trim line).toList = '+' :: id.toList := by
    rw [← String.toList_inj, String.toList_append]
    rfl
  have hminus : Text.trim line = "-" ++ id ↔ (Text.trim line).toList = '-' :: id.toList := by
    rw [← String.toList_inj, String.toList_append]
    rfl
  have hid : ∀ rest, id = String.ofList rest ↔ rest = id.toList := by
    intro rest
    rw [← String.toList_inj, String.toList_ofList, eq_comm]
  simp only [isAbout, applyLine, hplus, hminus]
  generalize (Text.trim line).toList = cs
  split
  · next rest =>
    by_cases h : rest = id.toList <;> simp [Dict.contains_insert, hid, h]
  · next rest =>
    by_cases h : rest = id.toList <;> simp [Dict.contains_erase, hid, h]
  · next hplus' hminus' =>
    have hne : cs ≠ '+' :: id.toList := hplus' _
    have hne' : cs ≠ '-' :: id.toList := hminus' _
    simp [hne, hne']

/-- The ids after a file are those that its last lines about them add. -/
theorem contains_play (cs : List Char) (id : String) :
    (play ∅ cs).contains id = true ↔ Adds cs id := by
  unfold play Adds
  generalize Text.lines (String.ofList cs) = lines
  induction lines using List.reverseRecOn with
  | nil => exact iff_of_false (fun h => by cases h) (fun h => by cases h)
  | append_singleton lines line ih =>
    rw [List.foldl_append, List.foldl_cons, List.foldl_nil, contains_applyLine, List.map_append,
      List.filter_append, List.getLast?_append]
    by_cases h : isAbout id (Text.trim line) = true
    · simp [h]
    · simp [h, ih]

example : Adds "+a\n+b\n -a \nnoise\n".toList "b" ∧ ¬ Adds "+a\n+b\n -a \nnoise\n".toList "a" := by
  decide +kernel

end IdList

end Rollout
