import Mathlib.Data.Bool.AllAny
import Mathlib.Data.List.Basic
import Mathlib.Data.Option.Basic
import Rollout.Fetcher

/-!
# The URLs of payloads

Whether a text is the URL of a server does not depend on what follows the slash after the host
(`Url.isSome_ofText?`). So a server whose own URL reads back can be asked for the payload of any
key, and for the changes since any time (`Url.IsServer.isSome_payloadUrl?`).
-/

namespace Rollout

namespace Url

/-! ### Behind the host -/

/-- Characters that stand in a host and a port, and end neither of them. -/
def IsInside (c : Char) : Prop :=
  ' ' < c ∧ c ≠ '#' ∧ c ≠ '?' ∧ isSlash true c = false

instance (c : Char) : Decidable (IsInside c) :=
  inferInstanceAs (Decidable (_ ∧ _))

/-- The schemes that servers are asked by. -/
def IsWeb (scheme : String) : Prop := scheme = "http" ∨ scheme = "https"

/-- A URL up to the slash after the host. -/
def origin (scheme : String) (authority : List Char) : List Char :=
  scheme.toList ++ "://".toList ++ authority

section Text

variable {scheme : String} {authority : List Char}

theorem IsWeb.isSpecial (h : IsWeb scheme) : isSpecial scheme = true := by
  rcases h with rfl | rfl <;> decide

theorem mem_origin (hscheme : IsWeb scheme) (h : ∀ c ∈ authority, IsInside c) :
    ∀ c ∈ origin scheme authority, ' ' < c ∧ c ≠ '#' ∧ c ≠ '?' := by
  have hstart : ∀ c ∈ scheme.toList ++ "://".toList, ' ' < c ∧ c ≠ '#' ∧ c ≠ '?' := by
    rcases hscheme with rfl | rfl <;> exact List.all_iff_forall_prop.1 (by decide)
  intro c hc
  rcases List.mem_append.1 hc with hc | hc
  · exact hstart c hc
  · exact ⟨(h c hc).1, (h c hc).2.1, (h c hc).2.2.1⟩

theorem cut_fst (c : Char) (cs : List Char) : (cut c cs).1 = cs.takeWhile (· != c) := by
  unfold cut
  cases h : cs.dropWhile (· != c) with
  | nil =>
    have hall := List.takeWhile_append_dropWhile (p := (· != c)) (l := cs)
    rw [h, List.append_nil] at hall
    exact hall.symm
  | cons d rest => rfl

/-- What is cut off at a character that does not stand before a slash is cut off behind it. -/
theorem exists_cut_fst {c : Char} {start : List Char} (h : ∀ d ∈ start, d ≠ c) (hslash : '/' ≠ c)
    (rest : List Char) : ∃ rest', (cut c (start ++ '/' :: rest)).1 = start ++ '/' :: rest' := by
  rw [cut_fst, List.takeWhile_append_of_pos fun d hd => bne_iff_ne.2 (h d hd),
    List.takeWhile_cons_of_pos (by exact bne_iff_ne.2 hslash)]
  exact ⟨_, rfl⟩

/-- So are blanks that do not stand before a slash. -/
theorem exists_relevant {start : List Char} (h : ∀ c ∈ start, ' ' < c) (rest : List Char) :
    ∃ rest', relevant (String.ofList (start ++ '/' :: rest)) = start ++ '/' :: rest' := by
  have hnot {c : Char} (hc : ' ' < c) : ¬ decide (c ≤ ' ') = true := by
    simpa using hc
  have hleft : (start ++ '/' :: rest).dropWhile (· ≤ ' ') = start ++ '/' :: rest := by
    cases start with
    | nil => rfl
    | cons c start => exact List.dropWhile_cons_of_neg (hnot (h c List.mem_cons_self))
  obtain ⟨rest', hright⟩ : ∃ rest', (start ++ '/' :: rest).reverse.dropWhile (· ≤ ' ') =
      rest' ++ '/' :: start.reverse := by
    rw [List.reverse_append, List.reverse_cons, List.append_assoc, List.singleton_append,
      List.dropWhile_append, List.dropWhile_cons_of_neg (by decide)]
    split
    · exact ⟨[], rfl⟩
    · exact ⟨_, rfl⟩
  have hkept : start.filter (fun c => c != '\t' && c != '\n' && c != '\x0d') = start := by
    refine List.filter_eq_self.2 fun c hc => ?_
    have hne (d : Char) (hd : d ≤ ' ') : (c != d) = true :=
      bne_iff_ne.2 fun heq => absurd (h c hc) (heq ▸ Char.not_lt.2 hd)
    rw [hne _ (by decide), hne _ (by decide), hne _ (by decide)]
    rfl
  unfold relevant Text.trimList
  rw [String.toList_ofList, hleft, hright, List.reverse_append, List.reverse_cons,
    List.reverse_reverse, List.append_assoc, List.singleton_append, List.filter_append, hkept,
    List.filter_cons_of_pos (by decide)]
  exact ⟨_, rfl⟩

/-- What follows the slash after the host only makes the path. -/
theorem isSome_ofAuthority?_eq (hscheme : IsWeb scheme) (h : ∀ c ∈ authority, IsInside c)
    (isLast isLast' : Bool) (rest rest' : List Char) :
    (ofAuthority? scheme isLast (authority ++ '/' :: rest)).isSome =
      (ofAuthority? scheme isLast' (authority ++ '/' :: rest')).isSome := by
  have htake (rest : List Char) :
      (authority ++ '/' :: rest).takeWhile (!isSlash true ·) = authority := by
    rw [List.takeWhile_append_of_pos fun c hc => by simp [(h c hc).2.2.2]]
    simp [isSlash]
  have hdrop (rest : List Char) :
      (authority ++ '/' :: rest).dropWhile (!isSlash true ·) = '/' :: rest := by
    rw [List.dropWhile_append_of_pos fun c hc => by simp [(h c hc).2.2.2]]
    simp [isSlash]
  unfold ofAuthority?
  simp only [hscheme.isSpecial, htake, hdrop, List.isEmpty_cons, Bool.and_false, if_true,
    Option.bind_eq_bind, Option.isSome_bind, Option.pure_def, Option.isSome_some]

/-- A text is a URL if the host and what comes with it can be read. -/
theorem isSome_ofText? (hscheme : IsWeb scheme) (h : ∀ c ∈ authority, IsInside c)
    (hne : authority ≠ []) (rest : List Char) :
    (ofText? (String.ofList (origin scheme authority ++ '/' :: rest))).isSome =
      (ofAuthority? scheme true (authority ++ ['/'])).isSome := by
  have hstart := mem_origin hscheme h
  obtain ⟨all, hrelevant⟩ := exists_relevant (fun c hc => (hstart c hc).1) rest
  obtain ⟨path, hfragment⟩ := exists_cut_fst (fun c hc => (hstart c hc).2.1) (by decide) all
  obtain ⟨path', hquery⟩ := exists_cut_fst (fun c hc => (hstart c hc).2.2) (by decide) path
  have hparts : scheme? (origin scheme authority ++ '/' :: path') =
      some (scheme, '/' :: '/' :: (authority ++ '/' :: path')) := by
    rcases hscheme with rfl | rfl <;> rfl
  have hfile : ¬ scheme = "file" := by
    rcases hscheme with rfl | rfl <;> decide
  have hrest (isLast : Bool) :
      (ofRest? scheme isLast ('/' :: '/' :: (authority ++ '/' :: path'))).isSome =
        (ofAuthority? scheme true (authority ++ ['/'])).isSome := by
    obtain ⟨c, later, rfl⟩ := List.exists_cons_of_ne_nil hne
    have hdrop : ('/' :: '/' :: (c :: later ++ '/' :: path')).dropWhile (isSlash true) =
        c :: later ++ '/' :: path' := by
      rw [List.dropWhile_cons_of_pos (by decide), List.dropWhile_cons_of_pos (by decide),
        List.cons_append, List.dropWhile_cons_of_neg]
      simp [(h c List.mem_cons_self).2.2.2]
    unfold ofRest?
    rw [if_neg hfile, if_pos hscheme.isSpecial, hdrop,
      isSome_ofAuthority?_eq hscheme h isLast true path' []]
  unfold ofText?
  simp only [hrelevant, hfragment, hquery, hparts, Option.bind_eq_bind, Option.bind_some,
    Option.isSome_bind, Option.pure_def, Option.isSome_some]
  rw [← hrest, Option.any_true]

end Text

/-! ### Servers -/

/-- What stands between the slashes and the path. -/
def authority (u : Url) : List Char := (u.userInfoText ++ u.hostAndPort).toList

/-- A URL of a server in its normal form, which reads back. -/
structure IsServer (u : Url) : Prop where
  scheme : IsWeb u.scheme
  host : u.host.isSome = true
  authority : ∀ c ∈ u.authority, IsInside c
  ne_nil : u.authority ≠ []
  path : ∃ s l, u.path = .segments (s :: l)
  reads : (ofText? u.toText).isSome = true

variable {u : Url}

theorem IsServer.exists_toText (h : u.IsServer) :
    ∃ rest, u.toText.toList = origin u.scheme u.authority ++ '/' :: rest := by
  obtain ⟨s, l, hpath⟩ := h.path
  have hpathText : u.pathText = "/" ++ (s ++ String.join (l.map ("/" ++ ·))) := by
    unfold pathText
    rw [hpath, ← String.append_assoc]
    simp
  unfold toText target origin Url.authority
  simp [h.host, hpathText]

/-- Slashes at the end are dropped at most down to the host. -/
theorem exists_dropSlashes {s : List Char} {c : Char} (hc : c ≠ '/') (rest : List Char) :
    ∃ rest', ((s ++ [c] ++ '/' :: rest).reverse.dropWhile (· == '/')).reverse ++ ['/'] =
      s ++ [c] ++ '/' :: rest' := by
  rw [List.reverse_append, List.reverse_cons, List.append_assoc, List.singleton_append,
    List.dropWhile_append]
  split
  · rw [List.dropWhile_cons_of_pos (by decide), List.reverse_append, List.reverse_singleton,
      List.singleton_append, List.dropWhile_cons_of_neg (by simpa using hc)]
    exact ⟨[], by simp⟩
  · exact ⟨(rest.reverse.dropWhile (· == '/')).reverse ++ ['/'], by simp⟩

/-- A server can be asked for the payload of any key, and for the changes since any time. -/
theorem IsServer.isSome_payloadUrl? (h : u.IsServer) (key : String) (since : Option Nat) :
    (Fetcher.payloadUrl? u key since).isSome = true := by
  obtain ⟨rest, htext⟩ := h.exists_toText
  obtain ⟨start, c, hauthority⟩ : ∃ start c, u.authority = start ++ [c] :=
    (List.eq_nil_or_concat' u.authority).resolve_left h.ne_nil
  have hc : c ≠ '/' := by
    rintro rfl
    have hslash := (h.authority '/' (by rw [hauthority]; simp)).2.2.2
    cases hslash
  have horigin : origin u.scheme u.authority =
      u.scheme.toList ++ "://".toList ++ start ++ [c] := by
    unfold origin
    rw [hauthority, ← List.append_assoc]
  obtain ⟨rest', hdrop⟩ :=
    exists_dropSlashes (s := u.scheme.toList ++ "://".toList ++ start) hc rest
  rw [← horigin, ← htext] at hdrop
  have hurl : String.ofList (u.toText.toList.reverse.dropWhile (· == '/')).reverse ++ "/" ++ key ++
      ".json" = String.ofList
        (origin u.scheme u.authority ++ '/' :: (rest' ++ key.toList ++ ".json".toList)) := by
    rw [← String.toList_inj]
    have hslash : "/".toList = ['/'] := rfl
    simp only [String.toList_append, String.toList_ofList, hslash, hdrop, List.append_assoc,
      List.cons_append]
  have hread := h.reads
  rw [← String.ofList_toList (s := u.toText), htext,
    isSome_ofText? h.scheme h.authority h.ne_nil] at hread
  unfold Fetcher.payloadUrl?
  rw [Option.isSome_map, hurl, isSome_ofText? h.scheme h.authority h.ne_nil]
  exact hread

end Url

end Rollout
