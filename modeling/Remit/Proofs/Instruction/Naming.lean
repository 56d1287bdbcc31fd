import Remit.Proofs.Instruction.Grammar
import Remit.Proofs.Processing

/-!
# The accounts and the date that a text names

A response of success names two accounts and perhaps a date. `process_namedIn` says where in the
text of the instruction these stand: each id is a whole piece right after the word `ACCOUNT`, and
the date is the last piece of all.

This needs the keywords to stand in the text where they are found in its upper case
(`KeywordsInPlace`), which is so when upper-casing keeps the length of the text. A longer upper case
shifts every later cut, and a shifted cut may still hold the id of an account, though no account
that the text names.
-/

namespace Remit

open Text

/-! ## Keywords in letters of either case -/

/-- A text whose upper case is a marker is the marker of a keyword in letters of either case. -/
theorem exists_of_upper_eq_marker {keyword : List Text} (hne : keyword ≠ [])
    (hk : ∀ w ∈ keyword, IsWord w) {t : Text} (h : upper t = marker keyword) :
    ∃ phrase, phrase.map upper = keyword ∧ t = marker phrase := by
  have hmarker : ∀ phrase : List Text, phrase ≠ [] →
      marker phrase = unpieces ([] :: (phrase ++ [[]])) := by
    intro phrase hphrase
    rw [marker_eq_spaced hphrase, unpieces_cons, List.nil_append, spaced_append, spaced_cons,
      spaced_nil, List.append_nil]
  have hspace : ∀ w ∈ [] :: (keyword ++ [[]]), ' ' ∉ w := by
    intro w hw
    simp only [List.mem_cons, List.mem_append, List.not_mem_nil, or_false] at hw
    rcases hw with rfl | hw | rfl
    · exact List.not_mem_nil
    · exact (hk w hw).2
    · exact List.not_mem_nil
  -- Splitting both sides at spaces gives the words of the keyword between two empty pieces.
  have hsplit : (t.splitOn ' ').map upper = [] :: (keyword ++ [[]]) := by
    rw [← splitOn_upper, h, hmarker keyword hne, unpieces,
      List.splitOn_intercalate ' ' hspace (List.cons_ne_nil _ _)]
  obtain ⟨a, rest, hrow, ha, hrest⟩ := List.map_eq_cons_iff.1 hsplit
  obtain ⟨phrase, ends, rfl, hphrase, hends⟩ := List.map_eq_append_iff.1 hrest
  obtain ⟨b, rfl, hb⟩ := List.map_eq_singleton_iff.1 hends
  have hphrasene : phrase ≠ [] := by
    rintro rfl
    exact hne hphrase.symm
  have ht : unpieces (t.splitOn ' ') = t := List.intercalate_splitOn ' '
  rw [upper_eq_nil_iff.1 ha, upper_eq_nil_iff.1 hb] at hrow
  exact ⟨phrase, hphrase, by rw [← ht, hrow, hmarker phrase hphrasene]⟩

/-- A keyword with a space on either side stands at a place of a text, in letters of either
case. -/
def MarkedAt (keyword : List Text) (t : Text) (place : Nat) : Prop :=
  upper (cut t place (place + (marker keyword).length)) = marker keyword

/-- The text goes on behind a marker, since another word follows. -/
theorem place_add_marker_lt {phrase ws : List Text} (hne : phrase ≠ []) (hw : ∀ w ∈ ws, IsWord w)
    {i : Nat} (h : OccursAt phrase ws i) :
    place ws i + (marker phrase).length < (unpieces ws).length := by
  have hafter := h.2.2
  have hnext := List.length_pos_iff.2 (hw _ (List.getElem_mem hafter)).1
  have hrest := congrArg List.length
    (drop_place ws (Nat.le_trans h.1 (Nat.le_add_right i phrase.length)))
  rw [← place_add_marker hne h, List.drop_eq_getElem_cons hafter, unpieces_cons, List.length_drop,
    List.length_append] at hrest
  omega

/-- A marked keyword occurs among the words of the text, and the next word begins behind it. -/
theorem MarkedAt.exists_occursAt {keyword ws : List Text} (hne : keyword ≠ [])
    (hk : ∀ w ∈ keyword, IsWord w) (hw : ∀ w ∈ ws, IsWord w) {m : Nat}
    (h : MarkedAt keyword (unpieces ws) m) :
    ∃ i, OccursAt keyword (ws.map upper) i ∧ m = place ws i
      ∧ m + (marker keyword).length = place ws (i + keyword.length) + 1 := by
  obtain ⟨phrase, hphrase, hcut⟩ := exists_of_upper_eq_marker hne hk h
  have hphrasene : phrase ≠ [] := by
    rintro rfl
    exact hne hphrase.symm
  have hwords : ∀ w ∈ phrase, IsWord w := by
    intro w hmem
    rw [← isWord_upper_iff]
    exact hk _ (hphrase ▸ List.mem_map_of_mem hmem)
  rw [cut, List.drop_take, Nat.add_sub_cancel_left] at hcut
  have hfound : spaced phrase ++ [' '] <+: (unpieces ws).drop m := by
    rw [← marker_eq_spaced hphrasene, ← hcut]
    exact List.take_prefix _ _
  obtain ⟨i, hocc, hm⟩ := (prefix_drop_unpieces_iff hwords hw m).1 hfound
  -- The text goes on, so the cut has the length of the keyword's marker.
  have hlen : (marker phrase).length = (marker keyword).length := by
    have hfits := place_add_marker_lt hphrasene hw hocc
    have hsame := congrArg List.length hcut
    rw [List.length_take, List.length_drop] at hsame
    omega
  refine ⟨i, hphrase ▸ hocc.map upper, hm, ?_⟩
  rw [← hlen, hm, place_add_marker hphrasene hocc, ← hphrase, List.length_map]

/-- The keywords found in the upper case of a text stand in the text at the same places. -/
structure Marks.InPlace (form : Form) (t : Text) (marks : Marks) : Prop where
  first : MarkedAt form.firstKeyword t marks.first
  second : MarkedAt form.secondKeyword t marks.second
  date : ∀ place ∈ marks.date, MarkedAt dateKeyword t place

/-- Whatever keywords are found for an instruction, they are found in place. -/
def KeywordsInPlace (t : Text) : Prop :=
  ∀ form marks, Form.ofOpening? (upper (normalize t)) = some form →
    form.marks (upper (normalize t)) = .ok marks → marks.InPlace form (normalize t)

theorem Form.marks_eq_ok_iff {form : Form} {upperText : Text} {marks : Marks} :
    form.marks upperText = .ok marks
      ↔ indexOf? form.firstMarker upperText = some marks.first
        ∧ indexOf? form.secondMarker upperText = some marks.second
        ∧ indexOf? dateMarker upperText = marks.date ∧ marks.first ≤ marks.second := by
  obtain ⟨first, second, date⟩ := marks
  rw [Form.marks]
  cases indexOf? form.firstMarker upperText with
  | none => simp
  | some p =>
    cases indexOf? form.secondMarker upperText with
    | none => simp
    | some q =>
      dsimp only
      split
      · next hlt =>
        simp only [reduceCtorEq, Option.some.injEq, false_iff]
        rintro ⟨rfl, rfl, -, hle⟩
        omega
      · next hle =>
        simp only [Except.ok.injEq, Marks.mk.injEq, Option.some.injEq]
        constructor
        · rintro ⟨rfl, rfl, hdate⟩
          exact ⟨rfl, rfl, hdate, Nat.le_of_not_lt hle⟩
        · rintro ⟨rfl, rfl, hdate, -⟩
          exact ⟨rfl, rfl, hdate⟩

theorem markedAt_of_indexOf? {keyword : List Text} {t : Text} (hkeep : KeepsLength t) {m : Nat}
    (h : indexOf? (marker keyword) (upper t) = some m) : MarkedAt keyword t m := by
  obtain ⟨-, hfound, -⟩ := indexOf?_eq_some_iff.1 h
  rw [MarkedAt, hkeep.upper_cut, cut, List.drop_take, Nat.add_sub_cancel_left]
  exact (List.prefix_iff_eq_take.1 hfound).symm

/-- In a text that keeps its length, keywords are found in place. -/
theorem keywordsInPlace_of_keepsLength {t : Text} (h : KeepsLength t) : KeywordsInPlace t := by
  have hkeep : KeepsLength (normalize t) := by
    apply keepsLength_unpieces
    intro w hw
    apply h.subset
    intro c hc
    exact mem_of_mem_splitOn (List.mem_filter.1 hw).1 hc
  intro form marks _ hmarks
  obtain ⟨hfirst, hsecond, hdate, -⟩ := Form.marks_eq_ok_iff.1 hmarks
  refine ⟨markedAt_of_indexOf? hkeep hfirst, markedAt_of_indexOf? hkeep hsecond, ?_⟩
  intro place hplace
  exact markedAt_of_indexOf? hkeep (hdate.trans hplace)

/-! ## Pieces that are named -/

/-- A text cut at spaces that has no inner space left once it is trimmed is a single piece. -/
theorem eq_singleton_of_trim {ws : List Text} (hw : ∀ w ∈ ws, IsWord w ∧ isBlankText w = false)
    {s : Text} (hne : s ≠ []) (hspace : ' ' ∉ s) (h : trim (unpieces ws) = s) :
    ∃ w, ws = [w] ∧ trim w = s := by
  match ws with
  | [] => exact absurd h.symm hne
  | [w] =>
    rw [unpieces_singleton] at h
    exact ⟨w, rfl, h⟩
  | w :: v :: rest =>
    have hv := (hw v (by simp)).2
    have hrest : isBlankText (unpieces (v :: rest)) = false := by
      rw [unpieces_cons, isBlankText, List.all_append]
      rw [isBlankText] at hv
      rw [hv, Bool.false_and]
    rw [unpieces_cons, spaced_eq_cons (List.cons_ne_nil _ _)] at h
    exact absurd (h ▸ space_mem_trim (hw w List.mem_cons_self).2 hrest) hspace

/-- The word that every account keyword ends with. -/
def accountWord : Text :=
  "ACCOUNT".toList

theorem isBlank_of_mem_accountWord : ∀ c ∈ accountWord, isBlank c = false := by
  intro c hc
  apply IsVisible.isBlank
  apply isVisible_of_isAccountId (t := accountWord) (by decide)
  exact hc

/-- An id is a whole piece of the text, and the piece before it is the word `ACCOUNT` in letters of
either case. -/
def FollowsAccount (t id : Text) : Prop :=
  ∃ k < (pieces t).length, ((pieces t).map trim)[k]?.map upper = some accountWord
    ∧ ((pieces t).map trim)[k + 1]? = some id

instance (t id : Text) : Decidable (FollowsAccount t id) := by
  unfold FollowsAccount; infer_instance

/-- The piece behind an account keyword follows the word `ACCOUNT`. -/
theorem followsAccount_of_occursAt {keyword : List Text}
    (hlast : keyword.getLast? = some accountWord) {t : Text} {i j : Nat}
    (hocc : OccursAt keyword ((pieces t).map upper) i) {w : Text}
    (hw : between (pieces t) (i + keyword.length) j = [w]) : FollowsAccount t (trim w) := by
  have hpos : 0 < keyword.length := by
    rw [List.length_pos_iff]
    rintro rfl
    cases hlast
  have hlt := hocc.2.2
  rw [List.length_map] at hlt
  have hbefore : ((pieces t).map upper)[i + keyword.length - 1]? = some accountWord := by
    have helem : (((pieces t).map upper).drop i |>.take keyword.length)[keyword.length - 1]?
        = some accountWord := by
      rw [hocc.2.1, ← List.getLast?_eq_getElem?]
      exact hlast
    rw [List.getElem?_take_of_lt (by omega), List.getElem?_drop] at helem
    rw [Nat.add_sub_assoc hpos]
    exact helem
  have hhere : (pieces t)[i + keyword.length]? = some w := by
    have hzero : (between (pieces t) (i + keyword.length) j)[0]? = some w := by
      rw [hw]
      rfl
    have hij := lt_of_between_ne_nil (hw ▸ List.cons_ne_nil w [])
    rwa [between, List.getElem?_drop, Nat.add_zero, List.getElem?_take_of_lt hij] at hzero
  refine ⟨i + keyword.length - 1, by omega, ?_, ?_⟩
  · rw [List.getElem?_map, Option.map_eq_some_iff] at hbefore
    obtain ⟨p, hp, hupper⟩ := hbefore
    have htrim : trim p = p := by
      apply trim_of_upper
      rw [hupper]
      exact isBlank_of_mem_accountWord
    rw [List.getElem?_map, hp, Option.map_some, Option.map_some, htrim, hupper]
  · rw [Nat.sub_add_cancel (by omega), List.getElem?_map, hhere, Option.map_some]

/-- An id cut out behind an account keyword follows the word `ACCOUNT`, if the cut ends with a
word. -/
theorem followsAccount_of_cut {keyword : List Text} (hk : ∀ w ∈ keyword, IsWord w)
    (hlast : keyword.getLast? = some accountWord) {t id : Text} {m r : Nat}
    (hm : MarkedAt keyword (normalize t) m) (hid : isAccountId id = true)
    (h : trim (cut (normalize t) (m + (marker keyword).length) (place (pieces t) r)) = id) :
    FollowsAccount t id := by
  have hne : keyword ≠ [] := by
    rintro rfl
    cases hlast
  obtain ⟨i, hocc, -, hend⟩ := hm.exists_occursAt hne hk fun w hw => (isWord_of_mem_pieces hw).1
  rw [hend, Text.normalize, cut_place _ (Nat.le_trans hocc.1 (Nat.le_add_right i _))] at h
  have hspace : ' ' ∉ id := fun hmem => (isVisible_of_isAccountId hid ' ' hmem).ne_space rfl
  obtain ⟨w, hw, hwtrim⟩ := eq_singleton_of_trim
    (fun v hv => isWord_of_mem_pieces (mem_of_mem_between hv)) (ne_nil_of_isAccountId hid) hspace h
  rw [← hwtrim]
  exact followsAccount_of_occursAt hlast hocc hw

/-- A date read behind its keyword is the last piece of the text, and there always is one. -/
theorem getLast?_of_dateAt {t : Text} {m : Nat} (hm : MarkedAt dateKeyword (normalize t) m)
    {executeBy : Option Text} (h : Instruction.dateAt (normalize t) (some m) = .ok executeBy) :
    ∃ date, executeBy = some date ∧ date ≠ []
      ∧ ((pieces t).map trim).getLast? = some date := by
  obtain ⟨i, hocc, -, hend⟩ := hm.exists_occursAt dateKeyword_ne_nil isWord_dateKeyword
    fun w hw => (isWord_of_mem_pieces hw).1
  have hlen := hocc.2.2
  rw [List.length_map] at hlen
  rw [Instruction.dateAt, dateMarker, hend, Text.normalize,
    drop_place _ (Nat.le_trans hocc.1 (Nat.le_add_right i _))] at h
  have hpieces : ∀ w ∈ (pieces t).drop (i + dateKeyword.length),
      IsWord w ∧ isBlankText w = false :=
    fun w hw => isWord_of_mem_pieces (List.mem_of_mem_drop hw)
  rcases dateField_eq_ok_iff.1 h with ⟨htrim, -⟩ | ⟨date, htrim, hform, rfl⟩
  · -- The piece behind the keyword is not blank, so that something is left of it.
    exfalso
    rw [trim_eq_nil_iff, List.drop_eq_getElem_cons hlen, unpieces_cons, isBlankText,
      List.all_append, Bool.and_eq_true] at htrim
    have hfalse := (isWord_of_mem_pieces (List.getElem_mem hlen)).2
    rw [isBlankText, htrim.1] at hfalse
    cases hfalse
  · have hne := ne_nil_of_isDateText hform
    have hspace : ' ' ∉ date := fun hmem => (isVisible_of_isDateText hform ' ' hmem).ne_space rfl
    obtain ⟨w, hw, hwtrim⟩ := eq_singleton_of_trim hpieces hne hspace htrim
    refine ⟨date, rfl, hne, ?_⟩
    rw [← List.take_append_drop (i + dateKeyword.length) (pieces t), hw, List.map_append,
      List.map_singleton, hwtrim, List.getLast?_concat]

namespace Instruction

/-- Fields between keywords that are in place are named by the text: the ids follow their keywords,
and the date is the last piece. -/
theorem FieldsAt.followsAccount {form : Form} {t : Text} {marks : Marks} {i : Instruction}
    (h : FieldsAt form (normalize t) marks i) (hplace : marks.InPlace form (normalize t)) :
    FollowsAccount t i.firstAccount ∧ FollowsAccount t i.secondAccount := by
  have hwords : ∀ w ∈ pieces t, IsWord w := fun w hw => (isWord_of_mem_pieces hw).1
  obtain ⟨q, -, hsecond, -⟩ := hplace.second.exists_occursAt form.secondKeyword_ne_nil
    form.isWord_secondKeyword hwords
  -- The second id ends with a word, before the date keyword or where the text ends.
  have hstop : ∃ r, marks.date.getD (normalize t).length = place (pieces t) r := by
    cases hdate : marks.date with
    | none => exact ⟨(pieces t).length, (place_of_length_le (Nat.le_refl _)).symm⟩
    | some m =>
      obtain ⟨r, -, hm, -⟩ := (hplace.date m hdate).exists_occursAt dateKeyword_ne_nil
        isWord_dateKeyword hwords
      exact ⟨r, hm⟩
  obtain ⟨r, hr⟩ := hstop
  have hfirstCut := h.first
  have hsecondCut := h.second
  rw [hsecond] at hfirstCut
  rw [hr] at hsecondCut
  exact ⟨followsAccount_of_cut form.isWord_firstKeyword (by cases form <;> decide) hplace.first
      h.isAccountId_first hfirstCut,
    followsAccount_of_cut form.isWord_secondKeyword (by cases form <;> decide) hplace.second
      h.isAccountId_second hsecondCut⟩

/-- Both accounts and the date of an instruction are named by the text that it was read from. -/
theorem named_of_parse {t : Text} (hplace : KeywordsInPlace t) {i : Instruction}
    (h : parse t = .ok i) :
    FollowsAccount t i.debitAccount ∧ FollowsAccount t i.creditAccount
      ∧ (dateMarker <:+: upper (normalize t) → ∃ date, i.executeBy = some date ∧ date ≠ []
        ∧ ((pieces t).map trim).getLast? = some date) := by
  obtain ⟨form, hopening, hform⟩ := parse_eq_ok_iff.1 h
  obtain ⟨marks, hmarks, hfields⟩ := ofForm_eq_ok_iff.1 hform
  have hin := hplace form marks hopening hmarks
  obtain ⟨hfirst, hsecond⟩ := hfields.followsAccount hin
  have hdate : dateMarker <:+: upper (normalize t) → ∃ date, i.executeBy = some date ∧ date ≠ []
      ∧ ((pieces t).map trim).getLast? = some date := by
    rintro ⟨x, y, hxy⟩
    obtain ⟨-, -, hsearch, -⟩ := Form.marks_eq_ok_iff.1 hmarks
    cases hm : marks.date with
    | none =>
      rw [hm, indexOf?_eq_none_iff] at hsearch
      refine absurd ⟨y, ?_⟩ (hsearch x.length)
      rw [← hxy, List.append_assoc, List.drop_left]
    | some m => exact getLast?_of_dateAt (hin.date m hm) (hm ▸ hfields.date)
  obtain ⟨iform, amount, currency, debit, credit, executeBy⟩ := i
  cases iform with
  | debit => exact ⟨hfirst, hsecond, hdate⟩
  | credit => exact ⟨hsecond, hfirst, hdate⟩

end Instruction

/-! ## Responses -/

/-- What a response says about accounts and date is what the text names: both ids follow the word
`ACCOUNT`, and if the upper case of the text has the date keyword in it, the date is the last
piece. -/
structure Response.NamedIn (t : Text) (r : Response) : Prop where
  debit : ∃ id, r.debitAccount = some id ∧ FollowsAccount t id
  credit : ∃ id, r.creditAccount = some id ∧ FollowsAccount t id
  date : dateMarker <:+: upper (normalize t) → ∃ date, r.executeBy = some date
    ∧ ((pieces t).map trim).getLast? = some date

theorem Request.namedIn_of_code {supported : List Text} {today : Date} {request : Request}
    (h : (request.respond supported today).code = .AP00
      ∨ (request.respond supported today).code = .AP02)
    (hplace : KeywordsInPlace request.instruction) :
    Response.NamedIn request.instruction (request.respond supported today) := by
  obtain ⟨i, t, o, hparse, hchecks, hexecute, hresponse⟩ := outcome_of_code h
  obtain ⟨hdebit, hcredit, hdate⟩ := Instruction.named_of_parse hplace hparse
  obtain ⟨hdebitId, hcreditId, hexecuteBy⟩ := Transfer.execute_keeps hexecute
  rw [Account.id_of_find? hchecks.debit] at hdebitId
  rw [Account.id_of_find? hchecks.credit] at hcreditId
  rw [hchecks.executeBy] at hexecuteBy
  rw [hresponse]
  refine ⟨⟨_, congrArg some hdebitId, hdebit⟩, ⟨_, congrArg some hcreditId, hcredit⟩, ?_⟩
  intro hmarker
  obtain ⟨date, hsome, hne, hlast⟩ := hdate hmarker
  refine ⟨date, ?_, hlast⟩
  show o.executeBy.bind nonEmpty? = some date
  rw [hexecuteBy, hsome, Option.bind_some, nonEmpty?, if_neg (by simpa using hne)]

/-- What is answered with success names the accounts and the date that the instruction names, if
its keywords stand where they are found. They do if upper-casing keeps the length of the
instruction. -/
theorem process_namedIn {supported : List Text} {today : Date} {payload : Json}
    (h : (process supported today payload).code = .AP00
      ∨ (process supported today payload).code = .AP02) :
    ∃ request, Request.ofJson payload = .ok request
      ∧ (KeywordsInPlace request.instruction →
        Response.NamedIn request.instruction (process supported today payload))
      ∧ (KeepsLength request.instruction →
        Response.NamedIn request.instruction (process supported today payload)) := by
  obtain ⟨request, hjson, hrespond⟩ := Request.ofJson_of_code h
  rw [hrespond] at h ⊢
  refine ⟨request, hjson, fun hplace => Request.namedIn_of_code h hplace, fun hkeep => ?_⟩
  exact Request.namedIn_of_code h (keywordsInPlace_of_keepsLength hkeep)

/-- A request with an account `A` of 1000 NGN and an empty account `B`. -/
def requestForTwo (instruction : Text) : Json :=
  .object [("accounts".toList, .list [
      .object [("id".toList, .text "A".toList), ("balance".toList, .integer 1000),
        ("currency".toList, .text "NGN".toList)],
      .object [("id".toList, .text "B".toList), ("balance".toList, .integer 0),
        ("currency".toList, .text "NGN".toList)]]),
    ("instruction".toList, .text instruction)]

/-- White space around an id and a date still to come. -/
theorem process_namedIn_scheduled :
    (process ["NGN".toList] ⟨2025, 1, 1, by decide⟩ (requestForTwo
        "debit 5 NGN from account \tA for credit to account B on 2025-02-03".toList)).code = .AP02
      ∧ Response.NamedIn "debit 5 NGN from account \tA for credit to account B on 2025-02-03".toList
        (process ["NGN".toList] ⟨2025, 1, 1, by decide⟩ (requestForTwo
          "debit 5 NGN from account \tA for credit to account B on 2025-02-03".toList)) := by
  have hcode : (process ["NGN".toList] ⟨2025, 1, 1, by decide⟩ (requestForTwo
      "debit 5 NGN from account \tA for credit to account B on 2025-02-03".toList)).code
      = .AP02 := by
    decide +kernel
  obtain ⟨request, hjson, -, hnamed⟩ := process_namedIn (Or.inr hcode)
  cases hjson
  exact ⟨hcode, hnamed (by decide +kernel)⟩

/-- The upper case of `ß` is `SS`, so both ids are cut one character too late, and the money moves
between two accounts that the instruction does not name. -/
theorem process_not_namedIn :
    (process ["NGN".toList] ⟨2025, 1, 1, by decide⟩ (requestForTwo
        "DEBIT 5ß NGN FROM ACCOUNT XA FOR CREDIT TO ACCOUNT YB".toList)).code = .AP00
      ∧ (process ["NGN".toList] ⟨2025, 1, 1, by decide⟩ (requestForTwo
        "DEBIT 5ß NGN FROM ACCOUNT XA FOR CREDIT TO ACCOUNT YB".toList)).debitAccount
        = some "A".toList
      ∧ ¬ FollowsAccount "DEBIT 5ß NGN FROM ACCOUNT XA FOR CREDIT TO ACCOUNT YB".toList
        "A".toList := by
  decide +kernel

end Remit
