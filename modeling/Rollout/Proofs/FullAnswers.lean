import Rollout.Proofs.IdListMirror

/-!
# Servers that answer with whole files

A sync asks for what the file of an id list holds beyond what has been read of it. A server may
answer with just that, or with the whole file. Lines that are played once more do no harm
(`IdList.play_play`), but their bytes are counted again: the list counts as read further than the
file goes, and it is not downloaded until the file is longer than all that was downloaded so far
(`FullReading`). Until then the list is what the file said when it was last downloaded. So both
servers are alike to a list if and only if its file does not grow once something of it has been read
(`IdListSync.converges_iff`).
-/

namespace Rollout

/-! ### Texts and their bytes -/

namespace Text

/-- What a text holds from a byte on. -/
def restFrom (start : Nat) : List Char → List Char
  | [] => []
  | c :: cs => if start = 0 then c :: cs else restFrom (start - c.utf8Size) cs

theorem restFrom_append (read rest : List Char) :
    restFrom (String.ofList read).utf8ByteSize (read ++ rest) = rest := by
  induction read with
  | nil => cases rest <;> rfl
  | cons c read ih =>
    have hpos := c.utf8Size_pos
    rw [utf8ByteSize_cons, List.cons_append, restFrom, if_neg (by omega),
      Nat.add_sub_cancel_left, ih]

theorem IsWhole.append {a b : List Char} (ha : IsWhole a) (hb : IsWhole b) : IsWhole (a ++ b) := by
  obtain rfl | ⟨body, rfl⟩ := hb
  · rwa [List.append_nil]
  · exact .inr ⟨a ++ body, (List.append_assoc ..).symm⟩

end Text

/-! ### Lines that are played again -/

theorem Dict.eq_of_contains {d d' : Dict Unit} (h : ∀ k, d.contains k = d'.contains k) :
    d = d' := by
  refine ext_get? fun k => ?_
  have hk := h k
  unfold contains at hk
  rcases hd : d.get? k with _ | ⟨⟩ <;> rcases hd' : d'.get? k with _ | ⟨⟩ <;> rw [hd, hd'] at hk <;>
    first | rfl | cases hk

namespace IdList

variable {lines : List String} {id : String}

/-- Lines decide about an id if one of them is about it, and otherwise leave it as it was. -/
theorem contains_foldl_applyLine (ids : Dict Unit) (lines : List String) (id : String) :
    (lines.foldl applyLine ids).contains id =
      if lines.any fun line => isAbout id (Text.trim line) then
        (lines.foldl applyLine ∅).contains id
      else ids.contains id := by
  induction lines using List.reverseRecOn with
  | nil => rfl
  | append_singleton lines line ih =>
    rw [List.foldl_append, List.foldl_append, List.foldl_cons, List.foldl_nil, List.foldl_cons,
      List.foldl_nil, contains_applyLine, contains_applyLine, ih, List.any_append]
    by_cases hline : isAbout id (Text.trim line) = true
    · simp [hline]
    · simp [hline]

/-- Whole lines that are played again change nothing. -/
theorem play_play {read : List Char} (hread : Text.IsWhole read) (rest : List Char) :
    play (play ∅ read) (read ++ rest) = play ∅ (read ++ rest) := by
  have hagain : play (play ∅ read) read = play ∅ read := by
    refine Dict.eq_of_contains fun id => ?_
    unfold play
    rw [contains_foldl_applyLine]
    split <;> rfl
  rw [play_append _ hread, play_append _ hread, hagain]

end IdList

/-! ### Visits -/

namespace IdListSync

/-- A sync, and what the file of a list holds at the time. -/
structure Visit where
  intake : Intake
  content : String

variable (s : IdListSync) (name : String)

/-- The list after a visit. -/
def Visit.after (v : Visit) : Option IdList :=
  (s.syncOnce v.intake).2.catalog.synced.get? name

/-- In a turn that asks for a part of the file, the server responds as told, given from which byte
on it is asked. -/
def Turn.IsAnswered (t : Turn) (response : Nat → HttpResponse) : Prop :=
  ∀ list, next t.existing t.metadata = .extend list → ∃ url, Url.ofText? t.metadata.url = some url ∧
    (s.client.exchange
      { url
        headers := s.headers ++ [("range", "bytes=" ++ toString list.readBytes ++ "-")] }
      t.network).1 = .ok (response list.readBytes)

/-- The response with the part of the file that was asked for. -/
def partOf (content : String) (start : Nat) : HttpResponse :=
  { status := 206, body := .ofList (Text.restFrom start content.toList) }

/-- The response with the whole file. -/
def wholeOf (content : String) (_ : Nat) : HttpResponse := { status := 200, body := content }

/-- The visit has a turn of the list, in which the manifest tells of its file as it is, and the
server responds as told. -/
def Visit.Serves (file : Option String × Int) (response : String → Nat → HttpResponse) (v : Visit) :
    Prop :=
  ∃ t ∈ s.turns v.intake, t.name = name ∧ t.metadata.file = file ∧
    t.metadata.size = v.content.utf8ByteSize ∧ t.IsAnswered s (response v.content)

/-- Visits in sequence, each of which finds the list as it was left. -/
def Served (file : Option String × Int) (response : String → Nat → HttpResponse) :
    Option IdList → List Visit → Prop
  | _, [] => True
  | before, v :: rest =>
    v.intake.catalog.synced.get? name = before ∧ v.Serves s name file response ∧
      Served file response (v.after s name) rest

/-- Lines are added at the end of a file, or nothing. -/
def Grows (content content' : String) : Prop :=
  ∃ added : String, content' = content ++ added ∧ Text.IsWhole added.toList

/-- After each visit the ids are the same in both runs, and no list counts as read further than its
file goes. -/
structure Converges (ranged full : List Visit) : Prop where
  ids : full.map (fun v => (v.after s name).map (·.ids)) =
    ranged.map fun v => (v.after s name).map (·.ids)
  bytes : ∀ v ∈ ranged ++ full, ∀ list, v.after s name = some list →
    list.readBytes ≤ v.content.utf8ByteSize

/-! ### One visit -/

/-- Any response of success is taken for what was asked for. -/
theorem fetchChanges_of_response {s : IdListSync} {text : String} {url : Url} {start : Nat}
    {n : Network} {r : HttpResponse} (hurl : Url.ofText? text = some url)
    (hr : (s.client.exchange
      { url, headers := s.headers ++ [("range", "bytes=" ++ toString start ++ "-")] } n).1 = .ok r)
    (hsuccess : r.isSuccess = true) : (s.fetchChanges text start n).1 = .ok r.body := by
  unfold fetchChanges
  simp only [hurl]
  rw [bind_apply, hr]
  show changesOf r = .ok r.body
  unfold changesOf
  rw [if_pos hsuccess]

section Visit

variable {s name} {file : Option String × Int} {list : IdList} {v : Visit}

/-- A visit leaves a list alone whose file has not grown beyond what was read of it, and plays
whatever the server responds to a list whose file has. -/
theorem Visit.exists_after {response : String → Nat → HttpResponse}
    (hbefore : v.intake.catalog.synced.get? name = some list) (hfile : list.metadata.file = file)
    (hsuccess : ∀ content start, (response content start).isSuccess = true)
    (h : v.Serves s name file response) :
    ∃ list', v.after s name = some list' ∧ list'.metadata.file = file ∧
      if v.content.utf8ByteSize ≤ list.readBytes then
        list'.ids = list.ids ∧ list'.readBytes = list.readBytes
      else
        let body := (response v.content list.readBytes).body
        list'.ids = IdList.play list.ids body.toList ∧
          list'.readBytes = list.readBytes + body.utf8ByteSize := by
  obtain ⟨t, ht, rfl, htfile, hsize, hanswered⟩ := h
  have hok : (s.syncOnce v.intake).1 = .ok () := by
    obtain ⟨failure, -, hnone, -⟩ | ⟨hok, -⟩ := s.syncOnce_cases v.intake
    · rw [hnone] at ht
      cases ht
    · exact hok
  have hexisting : t.existing = some list := (existing_of_mem_turns ht).trans hbefore
  have hsame : isSameFile list t.metadata = true := by
    obtain ⟨hid, htime⟩ := Prod.mk.inj (hfile.trans htfile.symm)
    exact Bool.and_eq_true_iff.2 ⟨beq_iff_eq.2 hid, decide_eq_true (Int.le_of_eq htime.symm)⟩
  have hafter : v.after s t.name = t.result s := get?_of_mem_turns hok ht
  have hnext : next t.existing t.metadata =
      if t.metadata.size ≤ list.readBytes then .keep list else .extend list := by
    rw [hexisting]
    simp [next, hsame]
  rw [hafter, ← hsize]
  unfold Turn.result
  split
  · next hle =>
    rw [if_pos hle] at hnext
    exact ⟨list, by rw [update_of_keep hnext], hfile, rfl, rfl⟩
  · next hlt =>
    rw [if_neg hlt] at hnext
    obtain ⟨url, hurl, hresponse⟩ := hanswered list hnext
    have hchanges := fetchChanges_of_response hurl hresponse (hsuccess _ _)
    refine ⟨_, by rw [update_of_extend hnext, hchanges], htfile, ?_, rfl⟩
    show (Text.lines _).foldl IdList.applyLine list.ids = _
    unfold IdList.play
    rw [String.ofList_toList]

/-- The part of the file that was asked for is played as what was added to the file. -/
theorem Visit.exists_after_of_part {read added : String}
    (hbefore : v.intake.catalog.synced.get? name = some list) (hfile : list.metadata.file = file)
    (h : v.Serves s name file partOf) (hread : list.readBytes = read.utf8ByteSize)
    (hcontent : v.content = read ++ added) :
    ∃ list', v.after s name = some list' ∧ list'.metadata.file = file ∧
      list'.ids = IdList.play list.ids added.toList ∧
      list'.readBytes = v.content.utf8ByteSize := by
  obtain ⟨list', hafter, hfile', hlist'⟩ := Visit.exists_after hbefore hfile (fun _ _ => rfl) h
  refine ⟨list', hafter, hfile', ?_⟩
  have hsize : v.content.utf8ByteSize = read.utf8ByteSize + added.utf8ByteSize := by
    rw [hcontent, String.utf8ByteSize_append]
  split at hlist'
  · next hle =>
    obtain rfl : added = "" := String.utf8ByteSize_eq_zero_iff.1 (by omega)
    obtain ⟨hids, hbytes⟩ := hlist'
    exact ⟨hids.trans (IdList.play_nil _).symm, by omega⟩
  · have hbody : (partOf v.content list.readBytes).body = added := by
      have hrest := Text.restFrom_append read.toList added.toList
      rw [String.ofList_toList, ← hread, ← String.toList_append, ← hcontent] at hrest
      unfold partOf
      rw [hrest, String.ofList_toList]
    rw [hbody] at hlist'
    exact ⟨hlist'.1, by omega⟩

/-- The whole file is played over what was played of it before, and counted on top. -/
theorem Visit.exists_after_of_whole
    (hbefore : v.intake.catalog.synced.get? name = some list) (hfile : list.metadata.file = file)
    (h : v.Serves s name file wholeOf) :
    ∃ list', v.after s name = some list' ∧ list'.metadata.file = file ∧
      if v.content.utf8ByteSize ≤ list.readBytes then
        list'.ids = list.ids ∧ list'.readBytes = list.readBytes
      else
        list'.ids = IdList.play list.ids v.content.toList ∧
          list'.readBytes = list.readBytes + v.content.utf8ByteSize :=
  @Visit.exists_after s name file list v wholeOf hbefore hfile (fun _ _ => rfl) h

/-- A file does not grow once something of it has been read. -/
def Settles (content content' : String) : Prop := content = "" ∨ content' = content

/-- Where the whole file is what was added to it, or nothing was, it does not matter that the whole
file is played. -/
theorem Visit.exists_after_of_settles {read added : String}
    (hbefore : v.intake.catalog.synced.get? name = some list) (hfile : list.metadata.file = file)
    (h : v.Serves s name file wholeOf) (hread : list.readBytes = read.utf8ByteSize)
    (hcontent : v.content = read ++ added) (hsettles : Settles read v.content) :
    ∃ list', v.after s name = some list' ∧ list'.metadata.file = file ∧
      list'.ids = IdList.play list.ids added.toList ∧
      list'.readBytes = v.content.utf8ByteSize := by
  obtain ⟨list', hafter, hfile', hlist'⟩ := Visit.exists_after_of_whole hbefore hfile h
  refine ⟨list', hafter, hfile', ?_⟩
  have hsize : v.content.utf8ByteSize = read.utf8ByteSize + added.utf8ByteSize := by
    rw [hcontent, String.utf8ByteSize_append]
  split at hlist'
  · next hle =>
    obtain rfl : added = "" := String.utf8ByteSize_eq_zero_iff.1 (by omega)
    exact ⟨hlist'.1.trans (IdList.play_nil _).symm, by omega⟩
  · next hlt =>
    -- Something was added, so nothing was there before.
    obtain rfl : read = "" := hsettles.resolve_right fun heq => by
      rw [heq] at hlt
      omega
    rw [String.empty_append] at hcontent
    rw [hcontent] at hlist' ⊢
    exact ⟨hlist'.1, by simpa [hread] using hlist'.2⟩

end Visit

/-! ### Runs -/

/-- What a list is after downloads of its whole file: what the file held when it was last
downloaded, and how many bytes all downloads had. -/
structure FullReading where
  content : String
  bytes : Nat

/-- The file is downloaded if it is longer than all downloads so far. -/
def FullReading.visit (r : FullReading) (content : String) : FullReading :=
  if content.utf8ByteSize ≤ r.bytes then r
  else { content, bytes := r.bytes + content.utf8ByteSize }

section Run

variable {s : IdListSync} {name : String} {file : Option String × Int} {list list' : IdList}
  {read : String} {ranged full visits : List Visit}

/-- A server that answers with what was asked for keeps a list at what its file says. -/
theorem exists_after_of_ranged (hfile : list.metadata.file = file)
    (hids : list.ids = IdList.play ∅ read.toList) (hread : list.readBytes = read.utf8ByteSize)
    (hwhole : Text.IsWhole read.toList)
    (hserved : s.Served name file partOf (some list) visits)
    (hgrows : (read :: visits.map (·.content)).IsChain Grows) :
    ∀ v ∈ visits, ∃ list', v.after s name = some list' ∧
      list'.ids = IdList.play ∅ v.content.toList ∧ list'.readBytes = v.content.utf8ByteSize := by
  induction visits generalizing list read with
  | nil => exact fun _ hv => absurd hv List.not_mem_nil
  | cons v rest ih =>
    obtain ⟨hbefore, hserves, hrest⟩ := hserved
    rw [List.map_cons, List.isChain_cons_cons] at hgrows
    obtain ⟨⟨added, hcontent, hadded⟩, hgrows⟩ := hgrows
    obtain ⟨list', hafter, hfile', hids', hread'⟩ :=
      Visit.exists_after_of_part hbefore hfile hserves hread hcontent
    rw [hids, ← IdList.play_append _ hwhole, ← String.toList_append, ← hcontent] at hids'
    have hwhole' : Text.IsWhole v.content.toList := by
      rw [hcontent, String.toList_append]
      exact hwhole.append hadded
    rw [hafter] at hrest
    exact List.forall_mem_cons.2
      ⟨⟨list', hafter, hids', hread'⟩, ih hfile' hids' hread' hwhole' hrest hgrows⟩

/-- A server that answers with the whole file leaves a list at what its file said when it was last
downloaded. -/
theorem exists_after_of_full {last : FullReading} (hfile : list.metadata.file = file)
    (hids : list.ids = IdList.play ∅ last.content.toList) (hbytes : list.readBytes = last.bytes)
    (hlast : Text.IsWhole last.content.toList) (hread : Text.IsWhole read.toList)
    (hstarts : last.content.toList <+: read.toList)
    (hserved : s.Served name file wholeOf (some list) visits)
    (hgrows : (read :: visits.map (·.content)).IsChain Grows) :
    ∀ before v after, visits = before ++ v :: after →
      let r := ((before ++ [v]).map (·.content)).foldl FullReading.visit last
      ∃ list', v.after s name = some list' ∧ list'.ids = IdList.play ∅ r.content.toList ∧
        list'.readBytes = r.bytes := by
  induction visits generalizing list read last with
  | nil => exact fun before _ _ h => absurd h.symm (by simp)
  | cons v rest ih =>
    obtain ⟨hbefore, hserves, hrest⟩ := hserved
    rw [List.map_cons, List.isChain_cons_cons] at hgrows
    obtain ⟨⟨added, hcontent, hadded⟩, hgrows⟩ := hgrows
    obtain ⟨list', hafter, hfile', hlist'⟩ := Visit.exists_after_of_whole hbefore hfile hserves
    have hstarts' : last.content.toList <+: v.content.toList := by
      rw [hcontent, String.toList_append]
      exact hstarts.trans (List.prefix_append _ _)
    have hread' : Text.IsWhole v.content.toList := by
      rw [hcontent, String.toList_append]
      exact hread.append hadded
    -- The list after this visit is what the next reading says.
    obtain ⟨hids', hbytes', hlast', hnext⟩ : list'.ids =
          IdList.play ∅ (last.visit v.content).content.toList ∧
        list'.readBytes = (last.visit v.content).bytes ∧
        Text.IsWhole (last.visit v.content).content.toList ∧
        (last.visit v.content).content.toList <+: v.content.toList := by
      unfold FullReading.visit
      rw [hbytes] at hlist'
      split at hlist'
      · next hle =>
        rw [if_pos hle]
        exact ⟨hlist'.1.trans hids, hlist'.2, hlast, hstarts'⟩
      · next hlt =>
        rw [if_neg hlt]
        obtain ⟨rest, hcontent'⟩ := hstarts'
        have hplay : list'.ids = IdList.play ∅ v.content.toList := by
          rw [hlist'.1, hids, ← hcontent', IdList.play_play hlast]
        exact ⟨hplay, hlist'.2, hread', List.prefix_refl _⟩
    rw [hafter] at hrest
    rintro (_ | ⟨u, before⟩) w after hvisits
    · obtain ⟨rfl, rfl⟩ := List.cons.inj hvisits
      exact ⟨list', hafter, hids', hbytes'⟩
    · obtain ⟨rfl, htail⟩ := List.cons.inj hvisits
      exact ih hfile' hids' hbytes' hlast' hread' hnext hrest hgrows before w after htail

/-- Both servers are alike to a list whose file does not grow once something of it has been read. -/
theorem converges_of_settles (hfile : list.metadata.file = file)
    (hfile' : list'.metadata.file = file) (hids : list'.ids = list.ids)
    (hread : list.readBytes = read.utf8ByteSize)
    (hread' : list'.readBytes = read.utf8ByteSize)
    (hranged : s.Served name file partOf (some list) ranged)
    (hfull : s.Served name file wholeOf (some list') full)
    (hcontents : full.map (·.content) = ranged.map (·.content))
    (hgrows : (read :: ranged.map (·.content)).IsChain Grows)
    (hsettles : (read :: ranged.map (·.content)).IsChain Settles) :
    s.Converges name ranged full := by
  induction ranged generalizing list list' read full with
  | nil =>
    obtain rfl := List.map_eq_nil_iff.1 hcontents
    exact ⟨rfl, fun _ hv => absurd hv List.not_mem_nil⟩
  | cons v rest ih =>
    obtain ⟨v', rest', rfl⟩ : ∃ v' rest', full = v' :: rest' := by
      cases full with
      | nil => cases hcontents
      | cons v' rest' => exact ⟨v', rest', rfl⟩
    obtain ⟨hcontent', hcontents⟩ := List.cons.inj hcontents
    obtain ⟨hbefore, hserves, hrest⟩ := hranged
    obtain ⟨hbefore', hserves', hrest'⟩ := hfull
    rw [List.map_cons, List.isChain_cons_cons] at hgrows hsettles
    obtain ⟨⟨added, hcontent, -⟩, hgrows⟩ := hgrows
    obtain ⟨hsettled, hsettles⟩ := hsettles
    change v'.content = v.content at hcontent'
    obtain ⟨l, hafter, hlfile, hlids, hlread⟩ :=
      Visit.exists_after_of_part hbefore hfile hserves hread hcontent
    obtain ⟨l', hafter', hlfile', hlids', hlread'⟩ :=
      Visit.exists_after_of_settles hbefore' hfile' hserves' hread' (hcontent'.trans hcontent)
        (hcontent' ▸ hsettled)
    rw [hafter] at hrest
    rw [hafter'] at hrest'
    have hsame : l'.ids = l.ids := by rw [hlids, hlids', hids]
    obtain ⟨hidsRest, hbytesRest⟩ := ih hlfile hlfile' hsame hlread
      (hlread'.trans (by rw [hcontent'])) hrest hrest' hcontents hgrows hsettles
    refine ⟨?_, ?_⟩
    · rw [List.map_cons, List.map_cons, hidsRest, hafter, hafter', Option.map_some, Option.map_some,
        hsame]
    · intro u hu x hx
      rcases List.mem_append.1 hu with hu | hu <;> rcases List.mem_cons.1 hu with rfl | hu
      · rw [hafter] at hx
        exact Nat.le_of_eq (Option.some.inj hx ▸ hlread)
      · exact hbytesRest u (List.mem_append_left _ hu) x hx
      · rw [hafter'] at hx
        exact Nat.le_of_eq (Option.some.inj hx ▸ hlread')
      · exact hbytesRest u (List.mem_append_right _ hu) x hx

/-- A list does not count as read further than its file goes, if whole files are downloaded, only
where the file does not grow once something of it has been read. -/
theorem settles_of_bytes (hfile : list.metadata.file = file)
    (hread : list.readBytes = read.utf8ByteSize)
    (hserved : s.Served name file wholeOf (some list) visits)
    (hgrows : (read :: visits.map (·.content)).IsChain Grows)
    (hbytes : ∀ v ∈ visits, ∀ list, v.after s name = some list →
      list.readBytes ≤ v.content.utf8ByteSize) :
    (read :: visits.map (·.content)).IsChain Settles := by
  induction visits generalizing list read with
  | nil => exact .singleton _
  | cons v rest ih =>
    obtain ⟨hbefore, hserves, hrest⟩ := hserved
    rw [List.map_cons, List.isChain_cons_cons] at hgrows
    obtain ⟨⟨added, hcontent, -⟩, hgrows⟩ := hgrows
    rw [List.forall_mem_cons] at hbytes
    have hsettled : Settles read v.content := by
      by_contra hnot
      obtain ⟨hne, hne'⟩ := not_or.1 hnot
      obtain ⟨l, hafter, -, hl⟩ := Visit.exists_after_of_whole hbefore hfile hserves
      have hpos : 0 < read.utf8ByteSize :=
        Nat.pos_of_ne_zero fun hzero => hne (String.utf8ByteSize_eq_zero_iff.1 hzero)
      have hadded : 0 < added.utf8ByteSize := Nat.pos_of_ne_zero fun hzero => hne' (by
        rw [hcontent, String.utf8ByteSize_eq_zero_iff.1 hzero, String.append_empty])
      have hsize : v.content.utf8ByteSize = read.utf8ByteSize + added.utf8ByteSize := by
        rw [hcontent, String.utf8ByteSize_append]
      rw [if_neg (by omega)] at hl
      have hle := hbytes.1 l hafter
      omega
    obtain ⟨l, hafter, hlfile, -, hlread⟩ :=
      Visit.exists_after_of_settles hbefore hfile hserves hread hcontent hsettled
    rw [hafter] at hrest
    rw [List.map_cons, List.isChain_cons_cons]
    exact ⟨hsettled, ih hlfile hlread hrest hgrows hbytes.2⟩

/-- A server that answers with whole files leads to the same ids as one that answers with what was
asked for, and no list counts as read further than its file goes, if and only if the file does not
grow once something of it has been read. In any case the lists are what the files say whose parts
are answered, and what the files said when they were last downloaded that are answered as a
whole. -/
theorem converges_iff (hfile : list.metadata.file = file)
    (hids : list.ids = IdList.play ∅ read.toList) (hread : list.readBytes = read.utf8ByteSize)
    (hranged : s.Served name file partOf (some list) ranged)
    (hfull : s.Served name file wholeOf (some list) full)
    (hcontents : full.map (·.content) = ranged.map (·.content))
    (hgrows : (read :: ranged.map (·.content)).IsChain Grows) :
    (s.Converges name ranged full ↔ (read :: ranged.map (·.content)).IsChain Settles) ∧
    (Text.IsWhole read.toList →
      (∀ v ∈ ranged, ∃ list, v.after s name = some list ∧
        list.ids = IdList.play ∅ v.content.toList ∧ list.readBytes = v.content.utf8ByteSize) ∧
      ∀ before v after, full = before ++ v :: after →
        let r := ((before ++ [v]).map (·.content)).foldl FullReading.visit
          { content := read, bytes := read.utf8ByteSize }
        ∃ list, v.after s name = some list ∧ list.ids = IdList.play ∅ r.content.toList ∧
          list.readBytes = r.bytes) := by
  refine ⟨⟨fun h => ?_, converges_of_settles hfile hfile rfl hread hread hranged hfull hcontents
    hgrows⟩, fun hwhole => ⟨exists_after_of_ranged hfile hids hread hwhole hranged hgrows, ?_⟩⟩
  · rw [← hcontents] at hgrows ⊢
    exact settles_of_bytes hfile hread hfull hgrows fun v hv =>
      h.bytes v (List.mem_append_right _ hv)
  · rw [← hcontents] at hgrows
    exact exists_after_of_full hfile hids hread hwhole hwhole (List.prefix_refl _) hfull hgrows

end Run

/-! ### A file that grows -/

instance (t : Turn) (response : Nat → HttpResponse) : Decidable (t.IsAnswered s response) :=
  match hnext : next t.existing t.metadata, hurl : Url.ofText? t.metadata.url with
  | .keep _, _ => .isTrue fun _ h => nomatch hnext.symm.trans h
  | .extend _, none => .isFalse fun h => by
    obtain ⟨url, hurl', -⟩ := h _ hnext
    cases hurl.symm.trans hurl'
  | .extend list, some url => decidable_of_iff
    ((s.client.exchange
      { url
        headers := s.headers ++ [("range", "bytes=" ++ toString list.readBytes ++ "-")] }
      t.network).1 = .ok (response list.readBytes)) <| by
    constructor
    · intro h list' hnext'
      cases hnext.symm.trans hnext'
      exact ⟨url, hurl, h⟩
    · intro h
      obtain ⟨url', hurl', h⟩ := h list hnext
      cases hurl.symm.trans hurl'
      exact h

instance (file : Option String × Int) (response : String → Nat → HttpResponse) (v : Visit) :
    Decidable (v.Serves s name file response) :=
  inferInstanceAs (Decidable (∃ t ∈ _, _))

instance decidableServed (file : Option String × Int) (response : String → Nat → HttpResponse) :
    (before : Option IdList) → (visits : List Visit) →
      Decidable (s.Served name file response before visits)
  | _, [] => .isTrue trivial
  | before, v :: rest =>
    haveI := decidableServed file response (v.after s name) rest
    inferInstanceAs (Decidable (v.intake.catalog.synced.get? name = before ∧ _ ∧ _))

/-- A list with the ids of a file whose size was as given. -/
def listOf (ids : List String) (size readBytes : Nat) : IdList where
  metadata := { name := "a", url := "http://[::1]/a", fileId := "f", size, creationTime := 1 }
  ids := .ofList (ids.map fun id => (id, ()))
  readBytes

/-- A sync that finds a list as given and gets one answer to what it asks for. -/
def visitOf (before : IdList) (content : String) (status : Nat) (body : String) : Visit where
  intake :=
    { catalog := { synced := .ofList [("a", before)] }
      network :=
        { response? asked := match asked.length with
            | 1 => some ⟨200, manifestText (toString content.utf8ByteSize)⟩
            | 2 => some ⟨status, body⟩
            | _ => none }
      now := 0 }
  content

/-- Two syncs of a file of which nothing was read yet, and which then stays as it is. -/
def steady (status : Nat) (again : String) : List Visit :=
  [visitOf (listOf [] 0 0) "+a\n" status "+a\n", visitOf (listOf ["a"] 3 3) "+a\n" status again]

theorem converges_steady :
    ((listOf [] 0 0).metadata.file = (some "f", 1) ∧
      (listOf [] 0 0).ids = IdList.play ∅ "".toList ∧
      (listOf [] 0 0).readBytes = "".utf8ByteSize ∧
      localSync.Served "a" (some "f", 1) partOf (some (listOf [] 0 0)) (steady 206 "") ∧
      localSync.Served "a" (some "f", 1) wholeOf (some (listOf [] 0 0)) (steady 200 "+a\n") ∧
      (steady 200 "+a\n").map (·.content) = (steady 206 "").map (·.content) ∧
      ("" :: (steady 206 "").map (·.content)).IsChain Grows) ∧
    localSync.Converges "a" (steady 206 "") (steady 200 "+a\n") := by
  have hids : (listOf [] 0 0).ids = IdList.play ∅ "".toList := rfl
  have hread : (listOf [] 0 0).readBytes = "".utf8ByteSize := rfl
  have hranged :
      localSync.Served "a" (some "f", 1) partOf (some (listOf [] 0 0)) (steady 206 "") := by
    decide +kernel
  have hfull :
      localSync.Served "a" (some "f", 1) wholeOf (some (listOf [] 0 0)) (steady 200 "+a\n") := by
    decide +kernel
  have hgrows : ("" :: (steady 206 "").map (·.content)).IsChain Grows :=
    .cons_cons ⟨"+a\n", by decide, .inr ⟨"+a".toList, by decide⟩⟩
      (.cons_cons ⟨"", by decide, .inl rfl⟩ (.singleton _))
  have hsettles : ("" :: (steady 206 "").map (·.content)).IsChain Settles :=
    .cons_cons (.inl rfl) (.cons_cons (.inr rfl) (.singleton _))
  exact ⟨⟨rfl, hids, hread, hranged, hfull, rfl, hgrows⟩,
    (converges_iff rfl hids hread hranged hfull rfl hgrows).1.2 hsettles⟩

/-- A file that grows by a line that takes an id away: the id stays in the list that is downloaded
as a whole. -/
theorem not_forall_converges :
    ¬ ∀ (s : IdListSync) (name : String) (file : Option String × Int) (list : IdList)
        (read : String) (ranged full : List Visit), list.metadata.file = file →
      list.ids = IdList.play ∅ read.toList → list.readBytes = read.utf8ByteSize →
      s.Served name file partOf (some list) ranged → s.Served name file wholeOf (some list) full →
      full.map (·.content) = ranged.map (·.content) →
      (read :: ranged.map (·.content)).IsChain Grows → s.Converges name ranged full := by
  intro h
  have hgrows : ["+a\n", "+a\n+b\n", "+a\n+b\n-a\n"].IsChain Grows :=
    .cons_cons ⟨"+b\n", by decide, .inr ⟨"+b".toList, by decide⟩⟩
      (.cons_cons ⟨"-a\n", by decide, .inr ⟨"-a".toList, by decide⟩⟩ (.singleton _))
  have hids := (h localSync "a" (some "f", 1) (listOf ["a"] 3 3) "+a\n"
    [visitOf (listOf ["a"] 3 3) "+a\n+b\n" 206 "+b\n",
      visitOf (listOf ["a", "b"] 6 6) "+a\n+b\n-a\n" 206 "-a\n"]
    [visitOf (listOf ["a"] 3 3) "+a\n+b\n" 200 "+a\n+b\n",
      visitOf (listOf ["a", "b"] 6 9) "+a\n+b\n-a\n" 200 "+a\n+b\n-a\n"]
    rfl (by decide) rfl (by decide +kernel) (by decide +kernel) rfl hgrows).ids
  exact absurd hids (by decide +kernel)

end IdListSync

end Rollout
