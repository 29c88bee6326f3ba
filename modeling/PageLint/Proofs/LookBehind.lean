import Mathlib.Data.List.DropRight
import PageLint.Proofs.LiteralNames
import PageLint.Proofs.PageCuts

/-!
# What stands before a cast

The rules about casts look at a few bytes of SQL before each of them. What they see is a text: where
the first of these bytes is inside a character, the whole character is seen. So a rule may see more
than it asks for, by the first bytes of one character beyond ASCII (`Text.rtake_utf8_cases`). What it
looks for is written in ASCII, and nothing of that is in the bytes of such a character, so the rule
finds it exactly where the bytes that it asks for hold it.

The casts themselves are what the pattern for a column matches in the SQL, one match behind the other
from the left (`Pattern.Successive`). At each place the pattern matches one part of a text at most, so
there is only one such list, and it is the list of the fragments of a scan.

## Main results

* `Text.infix_utf8_iff`: a text in ASCII stands in a text where its bytes stand in the bytes.
* `Text.lastBytes_eq_iff`, `Text.infix_lastBytes_iff`: **what a window of bytes shows**.
* `Pattern.successive_iff`: the successive matches of a pattern are the fragments of a scan.
* `Checker.capErrors_exact`: **the errors about values without a cap**.
-/

namespace PageLint

open Utf8

/-! ### Texts in ASCII and their bytes -/

/-- A character has a first byte. -/
theorem Utf8.exists_encode_eq_cons (c : Char) : ∃ b bs, String.utf8EncodeChar c = b :: bs := by
  refine List.exists_cons_of_ne_nil fun hnil => ?_
  have hpos := Char.utf8Size_pos c
  rw [← length_encode, hnil] at hpos
  exact absurd hpos (Nat.lt_irrefl 0)

namespace Text

/-- Are all characters of the text of ASCII? -/
def IsAscii (t : Text) : Prop := ∀ c ∈ t, c.toNat < 0x80

variable {part : Text}

/-- A text begins with a text in ASCII where its bytes do. -/
theorem prefix_utf8_iff (hpart : part.IsAscii) {t : Text} : utf8 part <+: utf8 t ↔ part <+: t := by
  refine ⟨fun h => ?_, ?_⟩
  · induction part generalizing t with
    | nil => exact List.nil_prefix
    | cons a part ih =>
        obtain ⟨ha, hrest⟩ := List.forall_mem_cons.mp hpart
        rw [utf8_cons, encode_of_ascii ha] at h
        cases t with
        | nil => cases List.prefix_nil.mp h
        | cons c t =>
            obtain ⟨b, bs, hencode⟩ := exists_encode_eq_cons c
            have hhead := h
            rw [utf8_cons, hencode, List.singleton_append, List.cons_append, List.cons_prefix_cons]
              at hhead
            obtain rfl : c = a := (eq_byte_iff ha (hencode ▸ List.mem_cons_self)).mp hhead.1.symm
            rw [utf8_cons, encode_of_ascii ha, List.prefix_append_right_inj] at h
            exact List.cons_prefix_cons.mpr ⟨rfl, ih hrest h⟩
  · rintro ⟨rest, rfl⟩
    exact ⟨utf8 rest, (utf8_append part rest).symm⟩

section

variable (hne : part ≠ []) (hpart : part.IsAscii)
include hne hpart

/-- Bytes beyond ASCII in front of other bytes do not matter. -/
theorem infix_append_iff {passed : Bytes} (hpassed : ∀ b ∈ passed, 0x80 ≤ b.toNat) {bytes : Bytes} :
    utf8 part <:+: passed ++ bytes ↔ utf8 part <:+: bytes := by
  induction passed with
  | nil => rfl
  | cons b passed ih =>
      obtain ⟨hb, hpassed⟩ := List.forall_mem_cons.mp hpassed
      have hnot : ¬utf8 part <+: b :: (passed ++ bytes) := by
        obtain ⟨a, part, rfl⟩ := List.exists_cons_of_ne_nil hne
        have ha : a.toNat < 0x80 := hpart a List.mem_cons_self
        rw [utf8_cons, encode_of_ascii ha, List.singleton_append, List.cons_prefix_cons]
        rintro ⟨rfl, -⟩
        rw [toNat_byte ha] at hb
        omega
      rw [List.cons_append, List.infix_cons_iff, or_iff_right hnot, ih hpassed]

/-- A character beyond ASCII in front of a text does not matter. -/
theorem infix_cons_of_not_ascii_iff {c : Char} (hc : 0x80 ≤ c.toNat) {t : Text} :
    part <:+: c :: t ↔ part <:+: t := by
  refine List.infix_cons_iff.trans (or_iff_right ?_)
  obtain ⟨a, part, rfl⟩ := List.exists_cons_of_ne_nil hne
  rw [List.cons_prefix_cons]
  rintro ⟨rfl, -⟩
  have ha : a.toNat < 0x80 := hpart a List.mem_cons_self
  omega

/-- **A text in ASCII stands in a text where its bytes stand in the bytes.** -/
theorem infix_utf8_iff {t : Text} : utf8 part <:+: utf8 t ↔ part <:+: t := by
  induction t with
  | nil =>
      have hbytes : utf8 part ≠ [] := by
        refine List.ne_nil_of_length_pos ?_
        rw [length_utf8]
        exact utf8Size_pos hne
      rw [utf8_nil, List.infix_nil, List.infix_nil]
      exact iff_of_false hbytes hne
  | cons c t ih =>
      by_cases hc : c.toNat < 0x80
      · have hcons : utf8 (c :: t) = byte c :: utf8 t := by
          rw [utf8_cons, encode_of_ascii hc, List.singleton_append]
        rw [hcons, List.infix_cons_iff, ← hcons, prefix_utf8_iff hpart, ih, List.infix_cons_iff]
      · have hbeyond := Nat.le_of_not_lt hc
        rw [utf8_cons, infix_append_iff hne hpart fun b => le_of_mem_encode hbeyond, ih,
          infix_cons_of_not_ascii_iff hne hpart hbeyond]

end

/-! ### Windows -/

/-- The last bytes before a place are those of the nearest character and as many as it leaves. -/
theorem lastBytes_cons {n : Nat} (hn : n ≠ 0) (c : Char) (before : Text) :
    lastBytes n (c :: before) = lastBytes (n - c.utf8Size) before ++ [c] := if_neg hn

/-- **The window before a place** shows its last bytes, or these bytes and those of one character
beyond ASCII of which they hold a part. -/
theorem rtake_utf8_cases (n : Nat) (behind : Text) :
    (utf8 behind.reverse).rtake n = utf8 (lastBytes n behind) ∨
      ∃ c w passed, lastBytes n behind = c :: w ∧ 0x80 ≤ c.toNat ∧
        (utf8 behind.reverse).rtake n = passed ++ utf8 w ∧ ∀ b ∈ passed, 0x80 ≤ b.toNat := by
  induction behind generalizing n with
  | nil => exact Or.inl List.drop_nil
  | cons c before ih =>
      have hbytes : utf8 (c :: before).reverse = utf8 before.reverse ++ String.utf8EncodeChar c := by
        simp
      by_cases hzero : n = 0
      · subst hzero
        rw [lastBytes_zero, List.rtake_zero]
        exact Or.inl rfl
      rw [lastBytes_cons hzero, hbytes]
      have hsize := length_encode c
      by_cases hle : c.utf8Size ≤ n
      · have hrest : (utf8 before.reverse ++ String.utf8EncodeChar c).rtake n =
            (utf8 before.reverse).rtake (n - c.utf8Size) ++ String.utf8EncodeChar c := by
          rw [List.rtake, List.rtake, List.length_append, hsize, List.drop_append_of_le_length (by omega)]
          congr 2
          omega
        rw [hrest]
        rcases ih (n - c.utf8Size) with hshown | ⟨d, w, passed, hlast, hd, hshown, hpassed⟩
        · exact Or.inl (by rw [hshown, utf8_append]; simp)
        · refine Or.inr ⟨d, w ++ [c], passed, ?_, hd, ?_, hpassed⟩
          · rw [hlast, List.cons_append]
          · rw [hshown, utf8_append]
            simp
      · have hnone : n - c.utf8Size = 0 := by omega
        have hc : 0x80 ≤ c.toNat := by
          by_contra hascii
          have hone := utf8Size_of_ascii (Nat.lt_of_not_le hascii)
          omega
        have hpart : (utf8 before.reverse ++ String.utf8EncodeChar c).rtake n =
            (String.utf8EncodeChar c).drop (c.utf8Size - n) := by
          rw [List.rtake, List.length_append, hsize, List.drop_append]
          rw [List.drop_of_length_le (by omega), List.nil_append]
          congr 1
          omega
        refine Or.inr ⟨c, [], (String.utf8EncodeChar c).drop (c.utf8Size - n), ?_, hc, ?_, ?_⟩
        · rw [hnone, lastBytes_zero, List.nil_append]
        · rw [hpart, utf8_nil, List.append_nil]
        · exact fun b hb => le_of_mem_encode hc (List.mem_of_mem_drop hb)

/-- The window of seven bytes begins inside a character here. -/
example : lastBytes 7 "₹₹LEAST(".toList.reverse = "₹LEAST(".toList := by decide

/-- The last bytes of a text are those of a text that stands there. -/
theorem lastBytes_append (part before : Text) :
    lastBytes (utf8Size part) (part.reverse ++ before) = part := by
  induction part using List.reverseRecOn with
  | nil => exact lastBytes_zero _
  | append_singleton part c ih =>
      have hpos := Char.utf8Size_pos c
      have hsize := utf8Size_concat part c
      have hrest : utf8Size part + c.utf8Size - c.utf8Size = utf8Size part := by omega
      rw [List.reverse_append, List.reverse_singleton, List.singleton_append, List.cons_append, hsize,
        lastBytes_cons (by omega), hrest, ih]

/-- **A window shows a text of its size** exactly if the text stands before the place. -/
theorem lastBytes_eq_iff {part behind : Text} :
    lastBytes (utf8Size part) behind = part ↔ part <:+ behind.reverse := by
  constructor
  · intro h
    obtain ⟨rest, hrest, -⟩ := boundaryUpTo?_sub behind [] (utf8Size part)
    exact ⟨rest, by rw [hrest, h]⟩
  · rintro ⟨rest, hrest⟩
    have hbehind : behind = part.reverse ++ rest.reverse := by
      rw [← List.reverse_append, hrest, List.reverse_reverse]
    rw [hbehind, lastBytes_append]

/-- **A window shows a text in ASCII** exactly if its bytes hold those of the text, whatever else is
shown. -/
theorem infix_lastBytes_iff {part : Text} (hne : part ≠ []) (hpart : part.IsAscii) (n : Nat)
    (behind : Text) :
    part <:+: lastBytes n behind ↔ utf8 part <:+: (utf8 behind.reverse).rtake n := by
  rcases rtake_utf8_cases n behind with hshown | ⟨c, w, passed, hlast, hc, hshown, hpassed⟩
  · rw [hshown, infix_utf8_iff hne hpart]
  · rw [hlast, hshown, infix_cons_of_not_ascii_iff hne hpart hc, infix_append_iff hne hpart hpassed,
      infix_utf8_iff hne hpart]

end Text

/-! ### Successive matches -/

/-- The places of a fragment: those of its first character and of the one behind it. -/
def Hit.places {α : Type} (h : Hit α) : Nat × Nat :=
  (h.behind.length, h.behind.length + h.source.length)

/-- What stands before a fragment is the text up to its first place. -/
theorem Hit.take_places {α : Type} {read : Reader α} (hread : read.Consumes) {t : Text} {h : Hit α}
    (hmem : h ∈ t.hits read) : t.take h.places.1 = h.behind.reverse := by
  obtain ⟨-, -, ht⟩ := Text.read_of_mem_hits hread hmem
  rw [ht, places, ← List.length_reverse, List.take_left]

namespace Pattern

/-- The matches of a pattern from a place on: the leftmost one, the leftmost one from its end on, and so
on. -/
inductive Successive (t : Text) (p : Pattern) : (i : Nat) → List (Nat × Nat) → Prop where
  /-- There is no match any more. -/
  | done {i : Nat} : (∀ j, i ≤ j → j ≤ t.length → ∀ k, ¬Matches t p j k) → Successive t p i []
  /-- The leftmost match, and then those from its end on. -/
  | next {i j k : Nat} {ms : List (Nat × Nat)} : i ≤ j → j ≤ t.length →
      (∀ j', i ≤ j' → j' < j → ∀ k', ¬Matches t p j' k') → Matches t p j k → Successive t p k ms →
      Successive t p i ((j, k) :: ms)

/-- Does the reader take off at each place of a text what the pattern matches there? -/
def ReadBy {α : Type} (p : Pattern) (read : Reader α) : Prop :=
  ∀ (before t : Text) (k : Nat), Matches (before ++ t) p before.length k ↔
    ∃ value source ahead, t = source ++ ahead ∧ read before.getLast? t = some (value, ahead) ∧
      k = (before ++ source).length

section

variable {α : Type} {p : Pattern} {read : Reader α} {t : Text}

/-- Where there is no match, the next place is as good. -/
theorem Successive.extend {i : Nat} {ms : List (Nat × Nat)} (hnone : ∀ k, ¬Matches t p i k)
    (h : Successive t p (i + 1) ms) : Successive t p i ms := by
  cases h with
  | done hrest =>
      refine .done fun j hij hj => ?_
      rcases Nat.eq_or_lt_of_le hij with rfl | hlt
      · exact hnone
      · exact hrest j hlt hj
  | next hij hj hfirst hmatch hrest =>
      refine .next (Nat.le_of_succ_le hij) hj (fun j' hij' hlt => ?_) hmatch hrest
      rcases Nat.eq_or_lt_of_le hij' with rfl | hlt'
      · exact hnone
      · exact hfirst j' hlt' hlt

/-- What the pattern of a reader matches behind a text that is given nearest character first. -/
theorem ReadBy.matches_iff (hp : p.ReadBy read) {behind ahead : Text} {k : Nat} :
    Matches (behind.reverse ++ ahead) p behind.length k ↔
      ∃ value source rest, ahead = source ++ rest ∧
        read behind.head? ahead = some (value, rest) ∧ k = behind.length + source.length := by
  have hform := hp behind.reverse ahead k
  simpa only [List.length_append, List.length_reverse, List.getLast?_reverse] using hform

/-- A pattern with a reader matches one part at most from a place on. -/
theorem ReadBy.unique (hp : p.ReadBy read) {i k k' : Nat} (hi : i ≤ t.length) (hk : Matches t p i k)
    (hk' : Matches t p i k') : k = k' := by
  have hlength : (t.take i).length = i := List.length_take_of_le hi
  have hread : ∀ {k}, Matches t p i k → ∃ value source ahead, t.drop i = source ++ ahead ∧
      read (t.take i).getLast? (t.drop i) = some (value, ahead) ∧
        k = (t.take i ++ source).length := fun {k} hk => by
    refine (hp (t.take i) (t.drop i) k).mp ?_
    rwa [List.take_append_drop, hlength]
  obtain ⟨value, source, ahead, hsplit, hvalue, rfl⟩ := hread hk
  obtain ⟨value', source', ahead', hsplit', hvalue', rfl⟩ := hread hk'
  obtain ⟨rfl, rfl⟩ := Prod.mk.inj (Option.some.inj (hvalue.symm.trans hvalue'))
  rw [List.append_cancel_right (hsplit.symm.trans hsplit')]

/-- There is only one list of successive matches. -/
theorem Successive.unique (hp : p.ReadBy read) {i : Nat} {ms ms' : List (Nat × Nat)}
    (h : Successive t p i ms) (h' : Successive t p i ms') : ms = ms' := by
  induction h generalizing ms' with
  | done hnone =>
      cases h' with
      | done => rfl
      | next hij hj _ hmatch _ => exact absurd hmatch (hnone _ hij hj _)
  | next hij hj hfirst hmatch _ ih =>
      cases h' with
      | done hnone => exact absurd hmatch (hnone _ hij hj _)
      | next hij' hj' hfirst' hmatch' hrest' =>
          rcases Nat.lt_trichotomy _ _ with hlt | heq | hgt
          · exact absurd hmatch (hfirst' _ hij hlt _)
          · subst heq
            obtain rfl := hp.unique hj hmatch hmatch'
            rw [ih hrest']
          · exact absurd hmatch' (hfirst _ hij' hgt _)

/-- The fragments of a scan stand where the pattern of its reader matches, one after the other. -/
theorem successive_of_scans (hp : p.ReadBy read) (hread : read.Consumes) {behind ahead : Text}
    {hs : List (Hit α)} (hscan : Text.Scans read behind ahead hs) :
    Successive (behind.reverse ++ ahead) p behind.length (hs.map Hit.places) := by
  induction hscan with
  | done behind =>
      refine .done fun j hij hj k hmatch => ?_
      obtain rfl : j = behind.length := by
        rw [List.append_nil, List.length_reverse] at hj
        exact Nat.le_antisymm hj hij
      obtain ⟨value, source, rest, hnil, hvalue, -⟩ := hp.matches_iff.mp hmatch
      obtain ⟨source', hne, hsplit⟩ := hread _ _ _ _ hvalue
      exact hne (List.append_eq_nil_iff.mp hsplit.symm).1
  | @pass behind ahead c hs hnone _ ih =>
      rw [List.reverse_cons, List.append_assoc, List.singleton_append, List.length_cons] at ih
      refine ih.extend fun k hmatch => ?_
      obtain ⟨value, source, rest, -, hvalue, -⟩ := hp.matches_iff.mp hmatch
      rw [hnone] at hvalue
      cases hvalue
  | @fragment behind source ahead value hs hne hvalue _ ih =>
      rw [List.reverse_append, List.reverse_reverse, List.append_assoc, List.length_append,
        List.length_reverse, Nat.add_comm] at ih
      refine .next (Nat.le_refl _) ?_ (fun j hij hj => absurd hij (Nat.not_le.mpr hj)) ?_ ih
      · rw [List.length_append, List.length_reverse]
        exact Nat.le_add_right _ _
      · exact hp.matches_iff.mpr ⟨value, source, ahead, rfl, hvalue, rfl⟩

/-- **The successive matches of a pattern** are the fragments that its reader finds. -/
theorem successive_iff (hp : p.ReadBy read) (hread : read.Consumes) {ms : List (Nat × Nat)} :
    Successive t p 0 ms ↔ ms = (t.hits read).map Hit.places := by
  have hhits : Successive t p 0 ((t.hits read).map Hit.places) :=
    successive_of_scans hp hread (Text.scans_hits hread t)
  constructor
  · intro h
    exact h.unique hp hhits
  · rintro rfl
    exact hhits

end

/-- The pattern for a column has a reader: that of the casts of the column. -/
theorem readBy_castPattern (column : String) :
    (castPattern column).ReadBy (Query.cappedCast column) := by
  intro before t k
  rw [matches_castPattern_iff]
  simp only [part_length_iff]
  constructor
  · rintro ⟨name, hname, rest, rfl, rfl⟩
    exact ⟨(), _, rest, rfl, Query.cappedCast_eq_some_iff.mpr ⟨name, hname, rfl⟩, rfl⟩
  · rintro ⟨⟨⟩, source, ahead, hsplit, hread, rfl⟩
    obtain ⟨name, hname, rfl⟩ := Query.cappedCast_eq_some_iff.mp hread
    obtain rfl := List.append_cancel_right hsplit
    exact ⟨name, hname, ahead, rfl, rfl⟩

end Pattern

/-! ### Caps -/

/-- Do the last seven bytes of the text, or all if there are fewer, hold the start of a cap? -/
def Query.Capped (before : Text) : Prop :=
  Text.utf8 "LEAST(".toList <:+: (Text.utf8 before).rtake 7

/-- A window of seven bytes shows the start of a cap exactly if the bytes hold it. -/
theorem Query.has_lastBytes_iff {behind : Text} :
    (Text.lastBytes 7 behind).has "LEAST(" = true ↔ Capped behind.reverse := by
  have hascii : Text.IsAscii "LEAST(".toList := fun c hc => by
    have hall : ("LEAST(".toList.all fun c => decide (c.toNat < 0x80)) = true := by decide
    exact of_decide_eq_true (List.all_eq_true.mp hall c hc)
  rw [Text.has, Text.occursIn_iff]
  exact Text.infix_lastBytes_iff (by decide) hascii 7 behind

instance : DecidablePred Query.Capped := fun before =>
  decidable_of_iff ((Text.lastBytes 7 before.reverse).has "LEAST(" = true) (by
    rw [Query.has_lastBytes_iff, List.reverse_reverse])

namespace Rule

/-- The notice about a cast of a capped column that has no cap. -/
def uncapped (column : String) : Notice :=
  .error "SQL_VALUE_CAP" ("\"" ++ column ++
    "\" not wrapped in LEAST(..., 100.0); the source reports values above 100% in some months")

variable {α : Type} {read : Reader α} {sql : Text}

/-- There is one notice for each fragment without a cap. -/
theorem uncappedCasts_textsBefore (column : String) (hread : read.Consumes) :
    uncappedCasts column (textsBefore read 7 sql) =
      (((sql.hits read).map Hit.places).filter fun m => ¬Query.Capped (sql.take m.1)).map
        fun _ => uncapped column := by
  have hshown : ∀ head : Text, (if head.has "LEAST(" then none else some (uncapped column)) =
      if ¬head.has "LEAST(" = true then some (uncapped column) else none := fun head => by
    rw [ite_not]
  have hcapped : ∀ h ∈ sql.hits read, ((Text.lastBytes 7 h.behind).has "LEAST(" = true ↔
      Query.Capped (sql.take h.places.1)) := fun h hmem => by
    rw [Query.has_lastBytes_iff, Hit.take_places hread hmem]
  rw [uncappedCasts, textsBefore]
  refine (filterMap_eq_map_filter hshown _).trans ?_
  rw [List.filter_map, List.filter_map, List.map_map, List.map_map]
  refine congrArg _ (List.filter_congr fun h hmem => ?_)
  simp only [Function.comp_apply, hcapped h hmem]

/-- A filter by rule drops the notices under other rules. -/
theorem filter_rule_eq_nil {rule : String} {l : List Notice} (h : ∀ n ∈ l, n.rule ≠ rule) :
    l.filter (·.rule == rule) = [] := by
  refine List.filter_eq_nil_iff.mpr fun n hn => ?_
  simpa using h n hn

/-- A notice that is made under a condition is under its rule. -/
theorem rule_of_mem_noticeIf {condition : Bool} {n m : Notice} (hm : m ∈ noticeIf condition n) :
    m.rule = n.rule := by
  rw [noticeIf] at hm
  split at hm
  · rw [List.mem_singleton.mp hm]
  · cases hm

/-- Warnings about unreliable columns are under one rule. -/
theorem rule_of_mem_unreliableColumns {tables : RuleTables} {n : Notice}
    (hn : n ∈ unreliableColumns tables sql) : n.rule = "SQL_UNRELIABLE_COLUMN" := by
  obtain ⟨u, -, hu⟩ := List.mem_filterMap.mp hn
  split at hu
  · rw [← Option.some.inj hu]
    rfl
  · cases hu

/-- Warnings about deprecated names are under one rule. -/
theorem rule_of_mem_deprecatedNames {tables : RuleTables} {n : Notice}
    (hn : n ∈ deprecatedNames tables sql) : n.rule = "SQL_DEPOT_NAME" := by
  obtain ⟨⟨bad, good⟩, -, hname⟩ := List.mem_filterMap.mp hn
  simp only at hname
  split at hname
  · rw [← Option.some.inj hname]
    rfl
  · cases hname

/-- The notices about caps are those about the casts of capped columns. -/
theorem filter_queryNotices (checker : Checker) (casts : List Text)
    (capped : List (String × List Text)) :
    (queryNotices checker sql casts capped).filter (·.rule == "SQL_VALUE_CAP") =
      capped.flatMap fun (column, heads) => uncappedCasts column heads := by
  have hif : ∀ (condition : Bool) (severity : Severity) (rule message : String),
      rule ≠ "SQL_VALUE_CAP" →
        (noticeIf condition ⟨severity, rule, message⟩).filter (·.rule == "SQL_VALUE_CAP") = [] :=
    fun _ _ _ _ hrule => filter_rule_eq_nil fun m hm => by rwa [rule_of_mem_noticeIf hm]
  have hself : (capped.flatMap fun (column, heads) => uncappedCasts column heads).filter
      (·.rule == "SQL_VALUE_CAP") = capped.flatMap fun (column, heads) => uncappedCasts column heads := by
    refine List.filter_eq_self.mpr fun n hn => ?_
    obtain ⟨⟨column, heads⟩, -, hn⟩ := List.mem_flatMap.mp hn
    obtain ⟨head, -, hhead⟩ := List.mem_filterMap.mp hn
    split at hhead
    · cases hhead
    · rw [← Option.some.inj hhead]
      rfl
  have hunreliable : (unreliableColumns checker.tables sql).filter (·.rule == "SQL_VALUE_CAP") = [] :=
    filter_rule_eq_nil fun n hn => by rw [rule_of_mem_unreliableColumns hn]; decide
  have hdeprecated : (deprecatedNames checker.tables sql).filter (·.rule == "SQL_VALUE_CAP") = [] :=
    filter_rule_eq_nil fun n hn => by rw [rule_of_mem_deprecatedNames hn]; decide
  simp (disch := decide) only [queryNotices, Notice.error, Notice.warn, List.filter_append, hself,
    hunreliable, hdeprecated, hif, List.append_nil, List.nil_append]

end Rule

/-- A page without query blocks has no SQL. -/
theorem Page.sql_eq_nil {page : Page} (h : page.queries.isEmpty = true) : page.sql = [] := by
  rw [sql, List.isEmpty_iff.mp h]
  rfl

/-- The errors about caps, column by column and cast by cast. -/
theorem Rule.filter_querySafety (checker : Checker) (page : Page) :
    (querySafety checker page).filter (·.rule == "SQL_VALUE_CAP") =
      checker.tables.cappedColumns.flatMap fun column =>
        (((page.sql.hits (Query.cappedCast column)).map Hit.places).filter
          fun m => ¬Query.Capped (page.sql.take m.1)).map fun _ => uncapped column := by
  rw [querySafety]
  split
  · next hnone =>
    rw [Page.sql_eq_nil hnone]
    exact (List.flatMap_eq_nil_iff.mpr fun column _ => rfl).symm
  · rw [filter_queryNotices, List.flatMap_map]
    exact List.flatMap_congr fun column _ =>
      uncappedCasts_textsBefore column (Query.cappedCast_consumes column)

/-- **The errors about values without a cap.** A window before a place between two characters is always
there. The one of four bytes is `TRY_` exactly if the text before the place ends so, and the one of
seven bytes shows the start of a cap exactly if these bytes hold it, whatever characters they cut. The
pattern for a column can be read, and there is one list of its successive matches in the SQL of a page,
each the leftmost one behind the one before. The errors are one for each match that has no cap in the
seven bytes before it, column by column and match by match. -/
theorem Checker.capErrors_exact :
    (∀ before ahead : Text,
      let window n := Text.preceding? (before ++ ahead) (Text.utf8Size before) n
      (∀ n, (window n).isSome = true) ∧
      (window 4 = some "TRY_".toList ↔ "TRY_".toList <:+ before) ∧
      ((window 7).any (·.has "LEAST(") = true ↔ Query.Capped before)) ∧
    ∀ (checker : Checker) (page : Page), ∃ found : String → List (Nat × Nat),
      (∀ column, Pattern.parse? (Pattern.castText column) = some (Pattern.castPattern column) ∧
        ∀ ms, Pattern.Successive page.sql (Pattern.castPattern column) 0 ms ↔ ms = found column) ∧
      (checker.findingsOf .querySafety page).filter (·.rule == "SQL_VALUE_CAP") =
        checker.tables.cappedColumns.flatMap fun column =>
          ((found column).filter fun m => ¬Query.Capped (page.sql.take m.1)).map
            fun _ => (Rule.uncapped column).inFile page.path := by
  refine ⟨fun before ahead => ?_, fun checker page => ?_⟩
  · have hwindow : ∀ n, Text.preceding? (before ++ ahead) (Text.utf8Size before) n =
        some (Text.lastBytes n before.reverse) := fun n => by
      have hlast := Text.preceding?_utf8Size before.reverse ahead n
      rwa [List.reverse_reverse, Text.utf8Size_reverse] at hlast
    simp only [hwindow]
    refine ⟨fun _ => rfl, ?_, ?_⟩
    · have htry : Text.lastBytes (Text.utf8Size "TRY_".toList) before.reverse = "TRY_".toList ↔
          "TRY_".toList <:+ before.reverse.reverse := Text.lastBytes_eq_iff
      rw [List.reverse_reverse] at htry
      rw [Option.some.injEq]
      exact htry
    · rw [Option.any_some, Query.has_lastBytes_iff, List.reverse_reverse]
  · refine ⟨fun column => (page.sql.hits (Query.cappedCast column)).map Hit.places,
      fun column => ⟨Pattern.parse?_castText column, fun ms => ?_⟩, ?_⟩
    · exact Pattern.successive_iff (Pattern.readBy_castPattern column)
        (Query.cappedCast_consumes column)
    · have hfindings : (checker.findingsOf .querySafety page).filter (·.rule == "SQL_VALUE_CAP") =
          ((Rule.querySafety checker page).filter (·.rule == "SQL_VALUE_CAP")).map
            (·.inFile page.path) := List.filter_map
      rw [hfindings, Rule.filter_querySafety, List.map_flatMap]
      simp only [List.map_map]
      rfl

end PageLint
