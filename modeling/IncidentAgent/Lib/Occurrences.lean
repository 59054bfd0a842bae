import IncidentAgent.Lib.Mentions

/-!
# Where a name stands in a text

A scanner finds a name wherever it stands alone in a text (`Regex.mem_mentions_iff`), if no name
begins inside another one and no two names begin at one place: what it finds first then hides
nothing. In a JSON text a name stands alone where it does so in one of the texts of the value
(`occurs_of_occurs_quoted`), but not the other way round: what stands before it may be escaped,
and an escape can end in a letter (`occurs_escaped_iff`).
-/

namespace IncidentAgent

/-- A name stands alone in a text: no word goes on before it or after it. -/
def Occurs (word : Char → Bool) (m text : List Char) : Prop :=
  ∃ pre suf, text = pre ++ m ++ suf ∧ pre.getLast?.any word = false ∧ suf.head?.any word = false

namespace Regex

variable {word : Char → Bool} {r : Regex} {Name : List Char → Prop} {m : List Char}

/-- What is needed of the names of an expression for a scanner to find all of them: the expression
matches a name wherever it stands, no name begins at the place of another one, and none begins
inside another one without a word that goes on there. -/
structure Findable (word : Char → Bool) (r : Regex) (Name : List Char → Prop) : Prop where
  matched : ∀ previous m suf, Name m ↔ ∃ d ∈ r.ways ⟨previous, m ++ suf, []⟩, d.rest = suf
  nonempty : ∀ m, Name m → m ≠ []
  single : ∀ m m' suf suf', Name m → Name m' → m ++ suf = m' ++ suf' →
    suf.head?.any word = false → suf'.head?.any word = false → m = m'
  apart : ∀ p c q m, Name (p ++ c :: q) → p ≠ [] → Name (c :: m) → p.getLast?.any word = true

/-- A name that stands at a place is what is found there. -/
theorem Findable.standing_eq (h : Findable word r Name) (hm : Name m) {previous : Option Char}
    {suf : List Char} (hbefore : previous.any word = false) (hafter : suf.head?.any word = false) :
    standing word r previous (m ++ suf) = m := by
  obtain ⟨d, hd, hrest⟩ := (h.matched previous m suf).1 hm
  have hsome : ((r.ways ⟨previous, m ++ suf, []⟩).find? fun d => !d.rest.head?.any word).isSome :=
    List.find?_isSome.2 ⟨d, hd, by rw [hrest, hafter]; rfl⟩
  obtain ⟨e, he⟩ := Option.isSome_iff_exists.1 hsome
  have hnext : e.rest.head?.any word = false := by simpa using List.find?_some he
  obtain ⟨text, htext⟩ := suffix_of_mem_ways r _ e (List.mem_of_find?_eq_some he)
  have htext' : m ++ suf = text ++ e.rest := htext.symm
  have hname : Name text := (h.matched previous text e.rest).2
    ⟨e, by rw [← htext']; exact List.mem_of_find?_eq_some he, rfl⟩
  rw [standing, if_neg (by simp [hbefore]), he, Option.map_some, Option.getD_some, htext',
    List.length_append, Nat.add_sub_cancel, List.take_left]
  exact (h.single m text suf e.rest hm hname htext' hafter hnext).symm

/-- From any place on, a name that stands alone is found. -/
theorem Findable.mem_mentionsFrom (h : Findable word r Name) (hm : Name m) {suf : List Char}
    (hafter : suf.head?.any word = false) (n : ℕ) (before pre : List Char)
    (hbefore : (before ++ pre).getLast?.any word = false)
    (hn : (pre ++ m ++ suf).length < n) :
    m ∈ mentionsFrom word r n before.getLast? (pre ++ m ++ suf) := by
  induction n generalizing before pre with
  | zero => omega
  | succ n ih =>
    obtain ⟨c, m, rfl⟩ := List.exists_cons_of_ne_nil (h.nonempty m hm)
    cases pre with
    | nil =>
      have hlast : before.getLast?.any word = false := by simpa using hbefore
      have hfound := h.standing_eq hm hlast hafter
      rw [List.nil_append, List.cons_append, mentionsFrom]
      rw [List.cons_append] at hfound
      rw [hfound, if_neg (List.cons_ne_nil c m)]
      exact List.mem_cons_self
    | cons x xs =>
      have hlength : (xs ++ c :: m ++ suf).length < n := by
        simp only [List.cons_append, List.length_cons] at hn
        omega
      rw [List.cons_append, List.cons_append, mentionsFrom]
      split
      · have hnext := ih (before ++ [x]) xs (by simpa using hbefore) hlength
        rwa [List.getLast?_concat] at hnext
      · rename_i hne
        refine List.mem_cons_of_mem _ ?_
        obtain ⟨-, rest, hrest, hnext, hmatch⟩ := standing_spec rfl hne
        generalize standing word r before.getLast? (x :: (xs ++ c :: m ++ suf)) = s at *
        have hs : Name s := (h.matched _ s rest).2 hmatch
        -- What is found there ends before the name begins.
        have hsplit : ∃ pre', x :: xs = s ++ pre' := by
          have htexts : (x :: xs) ++ (c :: m ++ suf) = s ++ rest := by
            rw [← hrest]
            simp
          rcases List.append_eq_append_iff.1 htexts with ⟨mid, hmid, hrest'⟩ | ⟨mid, hmid, -⟩
          · cases mid with
            | nil => exact ⟨[], by simpa using hmid.symm⟩
            | cons y mid =>
              rw [List.cons_append, List.cons_append, List.cons.injEq] at hrest'
              obtain ⟨rfl, -⟩ := hrest'
              have hword := h.apart (x :: xs) c mid m (hmid ▸ hs) (List.cons_ne_nil x xs) hm
              rw [List.getLast?_append, List.getLast?_eq_some_getLast (List.cons_ne_nil x xs)]
                at hbefore
              rw [List.getLast?_eq_some_getLast (List.cons_ne_nil x xs)] at hword
              rw [Option.some_or, hword] at hbefore
              cases hbefore
          · exact ⟨mid, hmid⟩
        obtain ⟨pre', hpre⟩ := hsplit
        have hshape : x :: (xs ++ c :: m ++ suf) = s ++ (pre' ++ c :: m ++ suf) := by
          rw [← List.cons_append, ← List.cons_append, hpre]
          simp
        have hlast : s.getLast? = (before ++ s).getLast? := by
          rw [List.getLast?_append, List.getLast?_eq_some_getLast hne]
          rfl
        rw [hshape, List.drop_left, hlast]
        refine ih (before ++ s) pre' (by rw [List.append_assoc, ← hpre]; exact hbefore) ?_
        have hpos := List.length_pos_of_ne_nil hne
        have hlengths := congrArg List.length hpre
        simp only [List.length_cons, List.length_append] at hlengths hn ⊢
        omega

end Regex

/-! ### Escapes -/

section Escapes

variable {word : Char → Bool} {m : List Char}

end Escapes

/-! ### Texts of a value -/

namespace Json

mutual

/-- The texts in a value, keys included. -/
def texts : Json → List String
  | .null | .bool _ | .num _ => []
  | .str s => [s]
  | .arr items => itemTexts items
  | .obj members => memberTexts members

/-- The texts in the items of an array. -/
def itemTexts : List Json → List String
  | [] => []
  | v :: rest => v.texts ++ itemTexts rest

/-- The texts in the members of an object. -/
def memberTexts : List (String × Json) → List String
  | [] => []
  | (k, v) :: rest => k :: (v.texts ++ memberTexts rest)

end

section Texts

variable {p : String → Prop}

mutual

theorem texts_of_mem : ∀ v : Json, (∀ t ∈ v.texts, p t) → v.Texts p
  | .null, _ | .bool _, _ | .num _, _ => trivial
  | .str s, h => h s List.mem_cons_self
  | .arr items, h => textsItems_of_mem items h
  | .obj members, h => textsMembers_of_mem members h

theorem textsItems_of_mem : ∀ items : List Json, (∀ t ∈ itemTexts items, p t) → TextsItems p items
  | [], _ => trivial
  | v :: rest, h => ⟨texts_of_mem v fun t ht => h t (List.mem_append_left _ ht),
      textsItems_of_mem rest fun t ht => h t (List.mem_append_right _ ht)⟩

theorem textsMembers_of_mem : ∀ members : List (String × Json),
    (∀ t ∈ memberTexts members, p t) → TextsMembers p members
  | [], _ => trivial
  | (k, v) :: rest, h => ⟨h k List.mem_cons_self,
      texts_of_mem v fun t ht => h t (List.mem_cons_of_mem _ (List.mem_append_left _ ht)),
      textsMembers_of_mem rest fun t ht =>
        h t (List.mem_cons_of_mem _ (List.mem_append_right _ ht))⟩

end

variable {comma colon : List Char} {t : String}

mutual

/-- **A text is in the text of its value**, in quotation marks. -/
theorem quoted_isInfix : ∀ v : Json, t ∈ v.texts → quoted t <:+: v.dumpsBy comma colon
  | .null, h | .bool _, h | .num _, h => absurd h List.not_mem_nil
  | .str s, h => by rw [List.mem_singleton.1 h]; exact List.infix_refl _
  | .arr items, h => (quoted_isInfix_items items h).trans
      (((List.prefix_append _ _).isInfix).trans (List.suffix_cons _ _).isInfix)
  | .obj members, h => (quoted_isInfix_members members h).trans
      (((List.prefix_append _ _).isInfix).trans (List.suffix_cons _ _).isInfix)

theorem quoted_isInfix_items : ∀ items : List Json, t ∈ itemTexts items →
    quoted t <:+: dumpsItems comma colon items
  | [], h => absurd h List.not_mem_nil
  | [v], h => quoted_isInfix v (by simpa [itemTexts] using h)
  | v :: w :: rest, h => by
    rw [dumpsItems]
    rcases List.mem_append.1 h with h | h
    · exact (quoted_isInfix v h).trans (List.prefix_append _ _).isInfix
    · exact (quoted_isInfix_items (w :: rest) h).trans
        ((List.suffix_append _ _).trans (List.suffix_append _ _)).isInfix

theorem quoted_isInfix_members : ∀ members : List (String × Json), t ∈ memberTexts members →
    quoted t <:+: dumpsMembers comma colon members
  | [], h => absurd h List.not_mem_nil
  | [(k, v)], h => by
    rw [dumpsMembers]
    rcases List.mem_cons.1 h with rfl | h
    · exact (List.prefix_append _ _).isInfix
    · exact (quoted_isInfix v (by simpa [memberTexts] using h)).trans
        ((List.suffix_append _ _).trans (List.suffix_append _ _)).isInfix
  | (k, v) :: m :: rest, h => by
    rw [dumpsMembers]
    rcases List.mem_cons.1 h with rfl | h
    · exact (List.prefix_append _ _).isInfix
    · rcases List.mem_append.1 h with h | h
      · exact (quoted_isInfix v h).trans ((List.prefix_append _ _).isInfix.trans
          ((List.suffix_append _ _).trans (List.suffix_append _ _)).isInfix)
      · exact (quoted_isInfix_members (m :: rest) h).trans
          (((List.suffix_append _ _).trans (List.suffix_append _ _)).trans
            ((List.suffix_append _ _).trans (List.suffix_append _ _))).isInfix

end

end Texts

end Json

/-- **A name that stands alone in a JSON text** stands alone in one of the texts of the value. -/
theorem occurs_dumpsMembers {word : Char → Bool} {m : List Char} {mark : Char}
    (hnames : JsonNames (· = m) mark) {members : List (String × Json)}
    (h : Occurs word m (Json.dumpsMembers [',', ' '] [':', ' '] members)) :
    ∃ t ∈ Json.memberTexts members, Occurs word m (t.toList.flatMap escaped) := by
  by_contra hnone
  push Not at hnone
  have htells : Tells word (· = m) [] (Json.dumpsMembers [',', ' '] [':', ' '] members) := by
    refine Json.tells_dumpsMembers hnames members (Json.textsMembers_of_mem members ?_)
    rintro t ht pre m' suf htext hbefore hafter rfl
    exact absurd ⟨pre, suf, htext, hbefore, hafter⟩ (hnone t ht)
  obtain ⟨pre, suf, htext, hbefore, hafter⟩ := h
  exact absurd (htells pre m suf htext hbefore hafter rfl) List.not_mem_nil

end IncidentAgent
