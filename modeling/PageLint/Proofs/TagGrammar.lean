import PageLint.Markup.Tag
import PageLint.Proofs.Scanning

/-!
# The grammar of tags

A tag is `<`, the name of a component, a word boundary, text without `>`, and `>`. No name of a
component begins another, so that the name is the only one that can be read.

A text in which no tag is left open (`Text.EndsClosed`) can be continued without any change to its
tags: whatever begins with `<` in it ends in it.

## Main results

* `Tag.reader_eq_some_iff`: **the form of a tag**.
* `Tag.ofText_append`: the tags of a text that is continued behind its last tag.
-/

namespace PageLint

/-! ### Names of components -/

namespace ComponentKind

/-- No name begins another. -/
theorem eq_of_name_isPrefix {k l : ComponentKind} (h : k.name.toList <+: l.name.toList) :
    k = l := by
  have hall : ∀ k ∈ all, ∀ l ∈ all, k.name.toList <+: l.name.toList → k = l := by decide
  exact hall k (mem_all k) l (mem_all l) h

/-- Names do not hold the end of a tag. -/
theorem notMem_name (k : ComponentKind) : '>' ∉ k.name.toList := by
  cases k <;> decide

/-- The name that stands at the head of a text is read. -/
theorem read?_eq_some_iff {t rest : Text} {k : ComponentKind} :
    read? t = some (k, rest) ↔ t = k.name.toList ++ rest := by
  have hsound : ∀ {k rest}, read? t = some (k, rest) → t = k.name.toList ++ rest := by
    intro k rest h
    obtain ⟨l, -, hl⟩ := List.exists_of_findSome?_eq_some h
    obtain ⟨rest', hafter, hpair⟩ := Option.map_eq_some_iff.mp hl
    obtain ⟨rfl, rfl⟩ := Prod.mk.inj hpair
    exact Text.after?_eq_some_iff.mp hafter
  refine ⟨hsound, ?_⟩
  rintro rfl
  cases hread : read? (k.name.toList ++ rest) with
  | none =>
      have hnone := List.findSome?_eq_none_iff.mp hread k (mem_all k)
      rw [Text.after?_eq_some_iff.mpr rfl] at hnone
      cases hnone
  | some p =>
      obtain ⟨l, rest'⟩ := p
      have hl := hsound hread
      obtain rfl : k = l := by
        rcases List.prefix_or_prefix_of_prefix ⟨rest, rfl⟩ ⟨rest', hl.symm⟩ with h | h
        · exact eq_of_name_isPrefix h
        · exact (eq_of_name_isPrefix h).symm
      rw [List.append_cancel_left hl]

end ComponentKind

/-! ### Open tags -/

/-- No `<` stands behind the last `>` of the text. -/
def Text.EndsClosed (t : Text) : Prop := '<' ∉ t.reverse.takeWhile (· != '>')

instance : DecidablePred Text.EndsClosed := fun t =>
  inferInstanceAs (Decidable ('<' ∉ t.reverse.takeWhile (· != '>')))

/-- In a text whose tags are closed, every `<` has a `>` somewhere behind it. -/
theorem Text.endsClosed_iff {t : Text} :
    t.EndsClosed ↔ ∀ before after, t = before ++ '<' :: after → '>' ∈ after := by
  constructor
  · intro h before after ht
    by_contra hmem
    refine h ?_
    have hafter : ∀ c ∈ after.reverse, (c != '>') = true := by
      intro c hc
      exact bne_iff_ne.mpr fun heq => hmem (heq ▸ List.mem_reverse.mp hc)
    rw [ht, List.reverse_append, List.reverse_cons, List.append_assoc,
      List.takeWhile_append_of_pos hafter, List.singleton_append,
      List.takeWhile_cons_of_pos (by decide)]
    exact List.mem_append_right _ List.mem_cons_self
  · intro h hmem
    obtain ⟨s, s', hs⟩ := List.append_of_mem hmem
    have hsplit : (s ++ '<' :: s' ++ t.reverse.dropWhile (· != '>')).reverse = t := by
      rw [← hs, List.takeWhile_append_dropWhile, List.reverse_reverse]
    have hgt : '>' ∈ s.reverse := by
      refine h ((t.reverse.dropWhile (· != '>')).reverse ++ s'.reverse) _ (hsplit.symm.trans ?_)
      simp
    have hmem' : '>' ∈ t.reverse.takeWhile (· != '>') :=
      hs ▸ List.mem_append_left _ (List.mem_reverse.mp hgt)
    exact absurd (List.mem_takeWhile_imp hmem') (by decide)

/-! ### Tags -/

namespace Tag

/-- What stands at the head of a text is a tag when it has the form of one. -/
theorem reader_eq_some_iff {before : Option Char} {t inner rest : Text} {kind : ComponentKind} :
    reader before t = some ((kind, inner), rest) ↔
      t = '<' :: (kind.name.toList ++ (inner ++ '>' :: rest)) ∧ '>' ∉ inner ∧
        ∀ c, inner.head? = some c → isWordChar c = false := by
  have hgt : isWordChar '>' = false := by decide +kernel
  simp only [reader, bind, Option.bind_eq_some_iff, Prod.exists, Text.after?_eq_some_iff,
    ComponentKind.read?_eq_some_iff]
  constructor
  · rintro ⟨_, rfl, kind', t, rfl, h⟩
    by_cases hword : t.head?.any isWordChar = true
    · rw [if_pos hword] at h
      cases h
    rw [if_neg hword] at h
    obtain ⟨⟨inner', rest'⟩, hread, hpair⟩ := Option.bind_eq_some_iff.mp h
    obtain ⟨⟨rfl, rfl⟩, rfl⟩ : (kind' = kind ∧ inner' = inner) ∧ rest' = rest := by
      simpa using hpair
    obtain ⟨hmem, rfl⟩ := Text.readUpTo?_eq_some_iff.mp hread
    refine ⟨rfl, hmem, ?_⟩
    intro c hc
    cases inner' with
    | nil => cases hc
    | cons d inner' =>
        obtain rfl := Option.some.inj hc
        simpa using hword
  · rintro ⟨rfl, hmem, hword⟩
    refine ⟨_, rfl, kind, inner ++ '>' :: rest, rfl, ?_⟩
    have hbound : (inner ++ '>' :: rest).head?.any isWordChar = false := by
      cases inner with
      | nil => rw [List.nil_append, List.head?_cons, Option.any_some, hgt]
      | cons c inner =>
          rw [List.cons_append, List.head?_cons, Option.any_some, hword c (List.head?_cons ..)]
    rw [hbound, Text.readUpTo?_eq_some_iff.mpr ⟨hmem, rfl⟩]
    rfl

/-- Only a `<` begins a tag. -/
theorem reader_cons_eq_none {before : Option Char} {c : Char} (h : c ≠ '<') (t : Text) :
    reader before (c :: t) = none := by
  cases hread : reader before (c :: t) with
  | none => rfl
  | some p =>
      obtain ⟨⟨kind, inner⟩, rest⟩ := p
      obtain ⟨hform, -, -⟩ := reader_eq_some_iff.mp hread
      exact absurd (List.cons.inj hform).1 h

/-- A text behind a tag does not change how it is read, nor does a text behind one where there is no
tag, as long as a `<` in front has its `>`. -/
theorem reader_append {before : Option Char} {t : Text} (hne : t ≠ [])
    (hclosed : ∀ s, t = '<' :: s → '>' ∈ s) (u : Text) :
    reader before (t ++ u) = (reader before t).map fun p => (p.1, p.2 ++ u) := by
  cases hread : reader before t with
  | some p =>
      obtain ⟨⟨kind, inner⟩, rest⟩ := p
      obtain ⟨rfl, hmem, hword⟩ := reader_eq_some_iff.mp hread
      refine reader_eq_some_iff.mpr ⟨?_, hmem, hword⟩
      simp only [List.cons_append, List.append_assoc]
  | none =>
      cases hread' : reader before (t ++ u) with
      | none => rfl
      | some p =>
          obtain ⟨⟨kind, inner⟩, rest⟩ := p
          obtain ⟨ht, hmem, hword⟩ := reader_eq_some_iff.mp hread'
          cases t with
          | nil => exact absurd rfl hne
          | cons c s =>
              obtain ⟨rfl, hs⟩ := List.cons.inj ht
              obtain ⟨a, b, rfl, ha⟩ := List.eq_append_cons_of_mem (hclosed s rfl)
              have hname : '>' ∉ kind.name.toList ++ inner := by
                rw [List.mem_append, not_or]
                exact ⟨kind.notMem_name, hmem⟩
              have hfirst : a ++ '>' :: (b ++ u) = (kind.name.toList ++ inner) ++ '>' :: rest := by
                simpa using hs
              obtain ⟨rfl, -⟩ := Text.append_cons_inj ha hname hfirst
              have htag : reader before ('<' :: (kind.name.toList ++ inner ++ '>' :: b)) =
                  some ((kind, inner), b) :=
                reader_eq_some_iff.mpr ⟨by rw [List.append_assoc], hmem, hword⟩
              rw [htag] at hread
              cases hread

/-! ### Tags behind a text -/

/-- The tags of a text that stands behind another one, which is given nearest character first. -/
def ofRest (behind t : Text) : List Tag := (Text.hitsFrom reader behind 0 t).map ofHit

/-- A character that begins no tag is passed over. -/
theorem ofRest_cons {c : Char} (h : c ≠ '<') (behind t : Text) :
    ofRest behind (c :: t) = ofRest (c :: behind) t := by
  rw [ofRest, ofRest, Text.hitsFrom_cons_of_none (reader_cons_eq_none h t)]

/-- Text without `<` is passed over. -/
theorem ofRest_append {between : Text} (h : '<' ∉ between) (behind t : Text) :
    ofRest behind (between ++ t) = ofRest (between.reverse ++ behind) t := by
  induction between generalizing behind with
  | nil => rfl
  | cons c between ih =>
      have hc : c ≠ '<' := fun hc => h (hc ▸ List.mem_cons_self)
      have hbetween : '<' ∉ between := fun hmem => h (List.mem_cons_of_mem c hmem)
      rw [List.cons_append, ofRest_cons hc, ih hbetween, List.reverse_cons, List.append_assoc,
        List.singleton_append]

/-- A tag at the head of a text is the first of its tags. -/
theorem ofRest_tag {behind source t : Text} {value : ComponentKind × Text} (hne : source ≠ [])
    (h : reader behind.head? (source ++ t) = some (value, t)) :
    ofRest behind (source ++ t) =
      ofHit ⟨behind, source, value, t⟩ :: ofRest (source.reverse ++ behind) t := by
  rw [ofRest, ofRest, Text.hitsFrom_fragment hne h, List.map_cons]

/-- **The tags of a text that is continued** are its own and those of the continuation, when the
text leaves no tag open. -/
theorem ofText_append {t : Text} (h : t.EndsClosed) (u : Text) :
    ofText (t ++ u) = ofText t ++ ofRest t.reverse u := by
  have hread : ∀ before s, s <:+ t → s ≠ [] →
      reader before (s ++ u) = (reader before s).map fun p => (p.1, p.2 ++ u) := by
    rintro before s ⟨front, rfl⟩ hne
    refine reader_append hne ?_ u
    rintro s rfl
    exact Text.endsClosed_iff.mp h front s rfl
  rw [ofText, ofText, Text.hits, Text.hits, Text.hitsFrom_append hread [] (Nat.zero_le _),
    List.map_append, List.map_map, List.append_nil]
  rfl

end Tag

end PageLint
