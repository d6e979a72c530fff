import Rollout.Proofs.JsonScan

/-!
# Documents of rendered JSON

Rendered text is read as the document of its value (`Document.ofText?_render`), unless containers
are nested too deep. Conversely, a document that has been read from a text holds no deeper
containers and no larger integers than can be read (`Document.isRead_of_ofText?`): every step of the
reader leaves behind containers that fit where they stand (`Document.Position.Fits.step`).
-/

namespace Rollout

/-! ### Numbers of any text -/

namespace Number

/-- An integer of 64 bits, with a sign or without one, or a binary64 number. -/
def InRange : Number → Prop
  | .int n => -2 ^ 63 ≤ n ∧ n < 2 ^ 64
  | .double _ => True

theorem accumulate_fst_lt {significand : Nat} (h : significand < 2 ^ 64) (cs : List Char) :
    (accumulate significand cs).1 < 2 ^ 64 := by
  induction cs generalizing significand with
  | nil => exact h
  | cons c cs ih =>
    unfold accumulate
    dsimp only
    split
    · next hnext => exact ih hnext
    · exact h

theorem inRange_of_ofParts? {negative : Bool} {significand : Nat} {exponent : Int} {n : Number}
    (h : ofParts? negative significand exponent = some n) : n.InRange := by
  obtain ⟨f, -, rfl⟩ := Option.map_eq_some_iff.1 h
  trivial

theorem inRange_of_ofDigits? {negative : Bool} {whole : List Char} {fraction : Option (List Char)}
    {exponent : Option (Bool × List Char)} {n : Number}
    (h : ofDigits? negative whole fraction exponent = some n) : n.InRange := by
  have hlt : (accumulate 0 whole).1 < 2 ^ 64 := accumulate_fst_lt (by decide) whole
  unfold ofDigits? at h
  dsimp only at h
  split at h
  · -- without fraction and exponent
    split_ifs at h with hextra hsign hrange
    · exact inRange_of_ofParts? h
    · cases h
      exact ⟨by omega, by exact_mod_cast hlt⟩
    · cases h
      trivial
    · cases h
      have hle : (accumulate 0 whole).1 ≤ 2 ^ 63 := Nat.not_lt.1 (not_or.1 hrange).2
      constructor <;> omega
  · split at h
    · exact inRange_of_ofParts? h
    · split at h
      · split at h
        · cases h
        · cases h
          trivial
      · exact inRange_of_ofParts? h

end Number

namespace Json.Token

theorem inRange_of_map_scanExponent {negative : Bool} {whole cs r : List Char}
    {fraction : Option (List Char)} {n : Number}
    (h : ((scanExponent cs).map fun (e, tail) =>
      (Number.ofDigits? negative whole fraction e, tail)) = some (some n, r)) : n.InRange := by
  obtain ⟨⟨e, tail⟩, -, heq⟩ := Option.map_eq_some_iff.1 h
  exact Number.inRange_of_ofDigits? (Prod.mk.inj heq).1

theorem inRange_of_afterWhole {negative : Bool} {whole cs r : List Char} {n : Number}
    (h : afterWhole negative whole cs = some (some n, r)) : n.InRange := by
  unfold afterWhole at h
  split at h
  · split at h
    · cases h
    · exact inRange_of_map_scanExponent h
  · exact inRange_of_map_scanExponent h

theorem inRange_of_scanNumber {negative : Bool} {cs r : List Char} {n : Number}
    (h : scanNumber negative cs = some (some n, r)) : n.InRange := by
  by_cases hzero : cs.head? = some '0'
  · obtain ⟨r', rfl⟩ := List.head?_eq_some_iff.1 hzero
    exact inRange_of_afterWhole h
  · rw [scanNumber_of_ne hzero] at h
    split at h
    · cases h
    · exact inRange_of_afterWhole h

theorem inRange_of_scanOne {cs r : List Char} {n : Number}
    (h : scanOne cs = some (.number (some n), r)) : n.InRange := by
  rcases scanOne_eq_number h with ⟨r', -, hscan⟩ | ⟨c, r', -, -, hscan⟩
  · exact inRange_of_scanNumber hscan
  · exact inRange_of_scanNumber hscan

theorem inRange_of_mem_scanAll {fuel : Nat} {cs : List Char} {ts : List Token}
    (h : scanAll fuel cs = some ts) {n : Number} (hn : .number (some n) ∈ ts) : n.InRange := by
  induction fuel generalizing cs ts with
  | zero =>
    unfold scanAll at h
    split at h
    · cases h
      cases hn
    · cases h
  | succ fuel ih =>
    unfold scanAll at h
    split at h
    · cases h
      cases hn
    · obtain ⟨⟨t, r⟩, hone, hrest⟩ := Option.bind_eq_some_iff.1 h
      obtain ⟨us, hus, rfl⟩ := Option.map_eq_some_iff.1 hrest
      rcases List.mem_cons.1 hn with rfl | hmem
      · exact inRange_of_scanOne hone
      · exact ih hus hmem

theorem inRange_of_mem_scan {s : String} {ts : List Token} (h : scan s = some ts) {n : Number}
    (hn : .number (some n) ∈ ts) : n.InRange := inRange_of_mem_scanAll h hn

end Json.Token

end Rollout

namespace Rollout.Json

mutual

/-- How deep containers are nested in a value. -/
def depth : Json → Nat
  | .array items => itemsDepth items + 1
  | .object members => membersDepth members + 1
  | .null | .bool _ | .number _ | .text _ => 0

def itemsDepth : List Json → Nat
  | [] => 0
  | x :: rest => max (depth x) (itemsDepth rest)

def membersDepth : List (String × Json) → Nat
  | [] => 0
  | (_, x) :: rest => max (depth x) (membersDepth rest)

end

theorem membersDepth_le_iff {members : List (String × Json)} {k : Nat} :
    membersDepth members ≤ k ↔ ∀ e ∈ members, e.2.depth ≤ k := by
  induction members with
  | nil => simp [membersDepth]
  | cons e rest ih => simp [membersDepth, ih]

namespace Document

/-! ### From rendered text -/

section Rendered

theorem readableMembers_map (members : List (String × Document)) :
    readableMembers (members.map fun e => (some e.1, e.2)) = some members := by
  induction members with
  | nil => rfl
  | cons e rest ih => simp [readableMembers, ih]

theorem finish_array {level : Nat} (h : level ≤ maxLevel) (items : List Document) :
    (Frame.array level items).finish = .array items.reverse :=
  if_neg (Nat.not_lt.2 h)

theorem finish_object {level : Nat} (h : level ≤ maxLevel) (members : List (String × Document))
    (key : Option String) :
    (Frame.object level (members.map fun e => (some e.1, e.2)).reverse key).finish =
      .object members := by
  rw [Frame.finish, if_neg (Nat.not_lt.2 h), List.reverse_reverse, readableMembers_map]

mutual

/-- The tokens of a value bring its document to where the value was wanted. -/
theorem foldlM_tokens : ∀ (j : Json) (canEnd : Bool) (stack : List Frame),
    stack.length + j.depth ≤ maxLevel →
    j.tokens.foldlM step (.value canEnd stack) = some (deliver (ofJson j) stack)
  | .null, _, _, _ | .bool _, _, _, _ | .number _, _, _, _ | .text _, _, _, _ => rfl
  | .array [], canEnd, stack, h => by
    have hlevel : stack.length + 1 ≤ maxLevel := by
      simp only [depth] at h
      omega
    show some (deliver (Frame.array (stack.length + 1) []).finish stack) = _
    rw [finish_array hlevel]
    rfl
  | .array (x :: items), canEnd, stack, h => by
    have hlevel : stack.length + 1 + itemsDepth (x :: items) ≤ maxLevel := by
      simp only [depth] at h
      omega
    have hitems := foldlM_itemsTokens (x :: items) (List.cons_ne_nil x items) true [] stack hlevel
    show (itemsTokens (x :: items) ++ [Token.endArray]).foldlM step
      (.value true (.array (stack.length + 1) [] :: stack)) = _
    rw [List.foldlM_append, hitems, List.append_nil]
    show some (deliver (Frame.array (stack.length + 1) _).finish stack) = _
    rw [finish_array (by omega), List.reverse_reverse]
    rfl
  | .object [], canEnd, stack, h => by
    have hlevel : stack.length + 1 ≤ maxLevel := by
      simp only [depth] at h
      omega
    show some (deliver (Frame.object (stack.length + 1) _ none).finish stack) = _
    exact congrArg (fun d => some (deliver d stack)) (finish_object hlevel [] none)
  | .object (e :: members), canEnd, stack, h => by
    have hlevel : stack.length + 1 + membersDepth (e :: members) ≤ maxLevel := by
      simp only [depth] at h
      omega
    have hmembers := foldlM_membersTokens (e :: members) (List.cons_ne_nil e members) true [] none
      stack hlevel
    show (membersTokens (e :: members) ++ [Token.endObject]).foldlM step
      (.key true (.object (stack.length + 1) [] none :: stack)) = _
    rw [List.foldlM_append, hmembers, List.append_nil]
    show some (deliver (Frame.object (stack.length + 1) _ none).finish stack) = _
    rw [finish_object (by omega)]
    rfl

theorem foldlM_itemsTokens : ∀ (items : List Json), items ≠ [] → ∀ (canEnd : Bool)
    (before : List Document) (stack : List Frame),
    stack.length + 1 + itemsDepth items ≤ maxLevel →
    (itemsTokens items).foldlM step (.value canEnd (.array (stack.length + 1) before :: stack)) =
      some (.after (.array (stack.length + 1) ((itemsOfJson items).reverse ++ before) :: stack))
  | [], h, _, _, _, _ => absurd rfl h
  | [x], _, canEnd, before, stack, h => by
    have hx : (Frame.array (stack.length + 1) before :: stack).length + x.depth ≤ maxLevel := by
      simp only [itemsDepth] at h
      simp only [List.length_cons]
      omega
    exact foldlM_tokens x canEnd _ hx
  | x :: y :: items, _, canEnd, before, stack, h => by
    simp only [itemsDepth] at h
    have hx : (Frame.array (stack.length + 1) before :: stack).length + x.depth ≤ maxLevel := by
      simp only [List.length_cons]
      omega
    have hrest := foldlM_itemsTokens (y :: items) (List.cons_ne_nil y items) false
      (ofJson x :: before) stack (by simp only [itemsDepth]; omega)
    rw [itemsTokens, List.foldlM_append, foldlM_tokens x canEnd _ hx]
    refine hrest.trans ?_
    simp [itemsOfJson]

theorem foldlM_membersTokens : ∀ (members : List (String × Json)), members ≠ [] →
    ∀ (canEnd : Bool) (before : List (Option String × Document)) (key : Option String)
    (stack : List Frame),
    stack.length + 1 + membersDepth members ≤ maxLevel →
    (membersTokens members).foldlM step
        (.key canEnd (.object (stack.length + 1) before key :: stack)) =
      some (.after (.object (stack.length + 1)
        (((membersOfJson members).map fun e => (some e.1, e.2)).reverse ++ before) none :: stack))
  | [], h, _, _, _, _, _ => absurd rfl h
  | [(k, x)], _, canEnd, before, key, stack, h => by
    have hx : (Frame.object (stack.length + 1) before (some k) :: stack).length + x.depth ≤
        maxLevel := by
      simp only [membersDepth] at h
      simp only [List.length_cons]
      omega
    exact foldlM_tokens x false _ hx
  | (k, x) :: m :: members, _, canEnd, before, key, stack, h => by
    simp only [membersDepth] at h
    have hx : (Frame.object (stack.length + 1) before (some k) :: stack).length + x.depth ≤
        maxLevel := by
      simp only [List.length_cons]
      omega
    have hrest := foldlM_membersTokens (m :: members) (List.cons_ne_nil m members) false
      ((some k, ofJson x) :: before) none stack (by simp only [membersDepth]; omega)
    show (tokens x ++ .comma :: membersTokens (m :: members)).foldlM step
      (.value false (.object (stack.length + 1) before (some k) :: stack)) = _
    rw [List.foldlM_append, foldlM_tokens x false _ hx]
    refine hrest.trans ?_
    simp [membersOfJson]

end

/-- The text of a value is read as the document of the value. -/
theorem ofText?_render {j : Json} (hnumbers : ∀ n ∈ j.numbers, n.ReadsBack)
    (hdepth : j.depth ≤ maxLevel) : ofText? j.render = some (ofJson j) := by
  have hfold : j.tokens.foldlM step (.value false []) = some (.finished (ofJson j)) :=
    foldlM_tokens j false [] (by simpa using hdepth)
  rw [ofText?, Token.scan_render hnumbers, Option.bind_some, ofTokens?, hfold]

end Rendered

/-! ### From any text -/

/-- A document nested at most so deep, with integers of 64 bits. -/
inductive IsRead : Nat → Document → Prop where
  | unreadable {k : Nat} : IsRead k .unreadable
  | null {k : Nat} : IsRead k .null
  | bool {k : Nat} (b : Bool) : IsRead k (.bool b)
  | number {k : Nat} {n : Number} (h : n.InRange) : IsRead k (.number n)
  | text {k : Nat} (s : String) : IsRead k (.text s)
  | array {k : Nat} {items : List Document} (h : ∀ d ∈ items, IsRead k d) :
    IsRead (k + 1) (.array items)
  | object {k : Nat} {members : List (String × Document)} (h : ∀ e ∈ members, IsRead k e.2) :
    IsRead (k + 1) (.object members)

namespace Frame

/-- The frame stands on so many others, and all that it holds is nested no deeper than it can be
there. -/
def Fits (below : Nat) : Frame → Prop
  | .array level items => level = below + 1 ∧ ∀ d ∈ items, IsRead (maxLevel - level) d
  | .object level members _ => level = below + 1 ∧ ∀ e ∈ members, IsRead (maxLevel - level) e.2

theorem exists_of_mem_readableMembers {members : List (Option String × Document)}
    {ms : List (String × Document)} (h : readableMembers members = some ms)
    {e : String × Document} (he : e ∈ ms) : (some e.1, e.2) ∈ members := by
  induction members generalizing ms with
  | nil =>
    cases h
    cases he
  | cons m rest ih =>
    obtain ⟨name, d⟩ := m
    cases name with
    | none => cases h
    | some k =>
      obtain ⟨ms', hms', rfl⟩ := Option.map_eq_some_iff.1 h
      rcases List.mem_cons.1 he with rfl | hmem
      · exact List.mem_cons_self
      · exact List.mem_cons_of_mem _ (ih hms' hmem)

theorem Fits.finish {f : Frame} {below : Nat} (h : f.Fits below) :
    IsRead (maxLevel - below) f.finish := by
  cases f with
  | array level items =>
    obtain ⟨rfl, hitems⟩ := h
    by_cases hlevel : maxLevel < below + 1
    · rw [Frame.finish, if_pos hlevel]
      exact .unreadable
    · rw [finish_array (Nat.not_lt.1 hlevel),
        show maxLevel - below = maxLevel - (below + 1) + 1 by omega]
      exact .array fun d hd => hitems d (List.mem_reverse.1 hd)
  | object level members name =>
    obtain ⟨rfl, hmembers⟩ := h
    by_cases hlevel : maxLevel < below + 1
    · rw [Frame.finish, if_pos hlevel]
      exact .unreadable
    · rw [Frame.finish, if_neg hlevel,
        show maxLevel - below = maxLevel - (below + 1) + 1 by omega]
      cases hms : readableMembers members.reverse with
      | none => exact .unreadable
      | some ms =>
        exact .object fun e he =>
          hmembers _ (List.mem_reverse.1 (exists_of_mem_readableMembers hms he))

end Frame

/-- Every frame fits where it stands. -/
def StackFits : List Frame → Prop
  | [] => True
  | f :: rest => f.Fits rest.length ∧ StackFits rest

/-- All containers around the position fit, and so does a document that has been read. -/
def Position.Fits : Position → Prop
  | .value _ stack | .key _ stack | .colon stack | .after stack => StackFits stack
  | .finished d => IsRead maxLevel d

theorem fits_deliver {d : Document} {stack : List Frame} (hd : IsRead (maxLevel - stack.length) d)
    (h : StackFits stack) : (deliver d stack).Fits := by
  match stack with
  | [] => exact hd
  | .array level items :: rest =>
    obtain ⟨⟨rfl, hitems⟩, hrest⟩ := h
    exact ⟨⟨rfl, List.forall_mem_cons.2 ⟨hd, hitems⟩⟩, hrest⟩
  | .object level members key :: rest =>
    obtain ⟨⟨rfl, hmembers⟩, hrest⟩ := h
    exact ⟨⟨rfl, List.forall_mem_cons.2 ⟨hd, hmembers⟩⟩, hrest⟩

theorem fits_finish {f : Frame} {rest : List Frame} (h : StackFits (f :: rest)) :
    (deliver f.finish rest).Fits :=
  fits_deliver h.1.finish h.2

section Steps

variable {canEnd : Bool} {stack : List Frame} {t : Token} {p' : Position}

theorem fits_step_value (h : StackFits stack) (ht : ∀ n, t = .number (some n) → n.InRange)
    (hstep : step (.value canEnd stack) t = some p') : p'.Fits := by
  cases t with
  | null =>
    cases hstep
    exact fits_deliver .null h
  | bool b =>
    cases hstep
    exact fits_deliver (.bool b) h
  | number n =>
    cases hstep
    cases n with
    | none => exact fits_deliver .unreadable h
    | some n => exact fits_deliver (.number (ht n rfl)) h
  | text s =>
    cases hstep
    cases s with
    | none => exact fits_deliver .unreadable h
    | some s => exact fits_deliver (.text s) h
  | beginArray | beginObject =>
    cases hstep
    exact ⟨⟨rfl, fun d hd => by cases hd⟩, h⟩
  | endArray =>
    match canEnd, stack with
    | true, frame :: outer =>
      cases hstep
      exact fits_finish h
    | true, [] | false, _ => cases hstep
  | endObject | comma | colon => cases hstep

theorem fits_step_key (h : StackFits stack) (hstep : step (.key canEnd stack) t = some p') :
    p'.Fits := by
  match t, stack with
  | .text s, .object level members name :: outer =>
    cases hstep
    exact h
  | .endObject, frame :: outer =>
    cases canEnd with
    | false => cases hstep
    | true =>
      cases hstep
      exact fits_finish h
  | .text s, [] | .text s, .array _ _ :: _ | .endObject, [] | .null, _ | .bool _, _
  | .number _, _ | .beginArray, _ | .beginObject, _ | .endArray, _ | .comma, _ | .colon, _ =>
    cases hstep

theorem fits_step_after (h : StackFits stack) (hstep : step (.after stack) t = some p') :
    p'.Fits := by
  match t, stack with
  | .comma, .array level items :: outer | .comma, .object level members name :: outer =>
    cases hstep
    exact h
  | .endArray, .array level items :: outer | .endObject, .object level members name :: outer =>
    cases hstep
    exact fits_finish h
  | .comma, [] | .endArray, [] | .endObject, [] | .endArray, .object _ _ _ :: _
  | .endObject, .array _ _ :: _ | .null, _ | .bool _, _ | .number _, _ | .text _, _
  | .beginArray, _ | .beginObject, _ | .colon, _ => cases hstep

end Steps

/-- Every step leaves behind containers that fit. -/
theorem Position.Fits.step {p p' : Position} {t : Token} (h : p.Fits)
    (ht : ∀ n, t = .number (some n) → n.InRange) (hstep : step p t = some p') : p'.Fits := by
  cases p with
  | value canEnd stack => exact fits_step_value h ht hstep
  | key canEnd stack => exact fits_step_key h hstep
  | colon stack =>
    cases t with
    | colon =>
      cases hstep
      exact h
    | _ => cases hstep
  | after stack => exact fits_step_after h hstep
  | finished d => cases hstep

theorem Position.Fits.run {ts : List Token} {p p' : Position} (h : p.Fits)
    (hts : ∀ n, .number (some n) ∈ ts → n.InRange) (hrun : ts.foldlM Document.step p = some p') :
    p'.Fits := by
  induction ts generalizing p with
  | nil =>
    cases hrun
    exact h
  | cons t ts ih =>
    rw [List.foldlM_cons] at hrun
    obtain ⟨q, hq, hrun'⟩ := Option.bind_eq_some_iff.1 hrun
    refine ih (h.step ?_ hq) (fun n hn => hts n (List.mem_cons_of_mem t hn)) hrun'
    rintro n rfl
    exact hts n List.mem_cons_self

/-- A text is read as a document that is nested no deeper than 127, with integers of 64 bits. -/
theorem isRead_of_ofText? {s : String} {d : Document} (h : ofText? s = some d) :
    IsRead maxLevel d := by
  obtain ⟨ts, hts, htokens⟩ := Option.bind_eq_some_iff.1 h
  unfold ofTokens? at htokens
  split at htokens
  · next d' hrun =>
    cases htokens
    have hstart : (Position.value false []).Fits := trivial
    exact hstart.run (fun n hn => Token.inRange_of_mem_scan hts hn) hrun
  · cases htokens

end Document

end Rollout.Json
