/-
# `Inlay.Proofs.Selector.Refusal` — where a text is no selector

A text that is refused is trimmed and split into tokens, and the place of the
error is one of these:

    all blank                      no place
    does not split into tokens     where the first token fails
    splits                         behind the longest row of its tokens that some
                                   selector begins with, or at its end

The last one has an exception.  Where this row ends in a condition that breaks
off, and the condition is the first thing of its compound, the error stands at
the bracket of that condition and not behind the row: `a[]` is refused at the
closing bracket, and `[]` at the opening one.

The library counts in characters from the beginning of the trimmed text and
turns the count into bytes of the whole one.  Here a place is a cut of the text
in two, and `SelectorError.behind` is the error there, so that no arithmetic is
left: the error names the character behind the cut and the bytes before it.
-/
import Inlay.Proofs.Selector.Expectation
import Inlay.Proofs.Selector.Lexemes

namespace Inlay

variable {text : String} {cs l u v lead : List Char}

/-! ## Bytes and blanks -/

namespace Text

theorem utf8ByteSize_ofList (cs : List Char) : (String.ofList cs).utf8ByteSize = utf8Length cs := by
  induction cs using List.reverseRecOn with
  | nil => rfl
  | append_singleton cs c ih =>
      rw [String.ofList_append, String.utf8ByteSize_append, ih, utf8Length, utf8Length,
        List.foldl_append]
      simp

theorem dropTrailing_append (p : Char → Bool) (cs : List Char) :
    cs = dropTrailing p cs ++ (cs.reverse.takeWhile p).reverse := by
  rw [dropTrailing, ← List.reverse_append, List.takeWhile_append_dropWhile, List.reverse_reverse]

/-- What trimming takes away is blank. -/
theorem trim_between (s : String) : ∃ trail,
    s.toList = s.toList.takeWhile isBlank ++ ((trim s).toList ++ trail) ∧
      ∀ c ∈ s.toList.takeWhile isBlank ++ trail, isBlank c = true := by
  refine ⟨((dropBlank s.toList).reverse.takeWhile isBlank).reverse, ?_, fun c hc => ?_⟩
  · rw [trim, String.toList_ofList, ← dropTrailing_append, dropBlank,
      List.takeWhile_append_dropWhile]
  · rcases List.mem_append.mp hc with hc | hc
    · exact List.mem_takeWhile_imp hc
    · exact List.mem_takeWhile_imp (List.mem_reverse.mp hc)

theorem trim_eq_nil_iff {s : String} :
    (trim s).toList = [] ↔ ∀ c ∈ s.toList, isBlank c = true := by
  constructor
  · intro h c hc
    obtain ⟨trail, htext, hblank⟩ := trim_between s
    rw [htext, h] at hc
    exact hblank c hc
  · intro h
    rw [trim, String.toList_ofList, dropTrailing, List.reverse_eq_nil_iff,
      List.dropWhile_eq_nil_iff]
    exact fun c hc => h c ((List.dropWhile_sublist isBlank).subset (List.mem_reverse.mp hc))

end Text

/-- The error of a text that is refused behind `before`: it names the character there and the bytes
before it, or the end of the text. -/
def SelectorError.behind (before : List Char) : List Char → SelectorError
  | [] => .unexpectedEnd
  | ch :: _ => .unexpected ch (String.ofList before).utf8ByteSize

namespace Selector

variable {ts us qs rs : List Token} {t : Token} {ps : List Placed} {p : Placed} {k place : Nat}
  {err : SelectorError}

theorem errorAt_eq (lead l u : List Char) :
    errorAt (Text.utf8Length lead) (l ++ u) l.length = .behind (lead ++ l) u := by
  cases u with
  | nil => simp [errorAt, SelectorError.behind]
  | cons ch u =>
      simp [errorAt, SelectorError.behind, String.utf8ByteSize_append, Text.utf8ByteSize_ofList]

/-! ## Tokens and their places -/

/-- The text `l` is that of the tokens `ts`, where `u` stands behind it. -/
inductive Taken : List Token → List Char → List Char → Prop
  | nil {u : List Char} : Taken [] [] u
  | cons {t : Token} {ts : List Token} {l v u : List Char} :
      Lexeme t l → t.Ends (v ++ u) → Taken ts v u → Taken (t :: ts) (l ++ v) u

theorem Taken.append (h : Taken ts l (v ++ u)) (h' : Taken us v u) :
    Taken (ts ++ us) (l ++ v) u := by
  generalize hw : v ++ u = w at h
  induction h with
  | nil => exact h'
  | @cons t ts l m _ hl hend _ ih =>
      subst hw
      rw [List.append_assoc]
      refine .cons hl ?_ (ih rfl)
      rwa [List.append_assoc]

theorem Taken.ne_nil (h : Taken (t :: ts) l u) : l ≠ [] := by
  cases h with
  | cons hl _ _ => simp [hl.ne_nil]

theorem Lexes.ne_nil (h : Lexes (t :: ts) u) : u ≠ [] := by
  cases h with
  | cons hl _ _ => simp [hl.ne_nil]

theorem tokens_cons_inv (h : tokens k cs = .ok (p :: ps)) : ∃ l u, cs = l ++ u ∧
    Lexeme p.token l ∧ p.token.Ends u ∧ p.start = k ∧ tokens (k + l.length) u = .ok ps := by
  rw [tokens] at h
  split at h
  · cases h
  · split at h
    · cases h
    · next t u hscan =>
        split at h
        · cases h
        · next more hmore =>
            cases h
            obtain ⟨l, rfl, hl, hend⟩ := scan?_iff.mp hscan
            rw [List.length_append, Nat.add_sub_cancel] at hmore
            exact ⟨l, u, rfl, hl, hend, rfl, hmore⟩

theorem tokens_append_inv (qs : List Placed) {rs : List Placed} (h : tokens k cs = .ok (qs ++ rs)) :
    ∃ l u, cs = l ++ u ∧ Taken (sentence qs) l u ∧ tokens (k + l.length) u = .ok rs := by
  induction qs generalizing k cs with
  | nil => exact ⟨[], cs, rfl, .nil, h⟩
  | cons q qs ih =>
      obtain ⟨l, u, rfl, hl, hend, -, hmore⟩ := tokens_cons_inv h
      obtain ⟨v, w, rfl, hv, hrs⟩ := ih hmore
      refine ⟨l ++ v, w, (List.append_assoc ..).symm, .cons hl hend hv, ?_⟩
      rwa [List.length_append, ← Nat.add_assoc]

/-- Splitting fails behind tokens, where no further one begins. -/
theorem tokens_error (h : tokens k cs = .error place) : ∃ ts l u, cs = l ++ u ∧ Taken ts l u ∧
    u ≠ [] ∧ (∀ t v w, u = v ++ w → ¬ Lexeme t v) ∧ place = k + l.length := by
  fun_induction tokens k cs generalizing place with
  | case1 => cases h
  | case2 k cs hne hscan =>
      cases h
      refine ⟨[], [], cs, rfl, .nil, by simpa using hne, fun t v w hcs hv => ?_, rfl⟩
      obtain ⟨t', u', hsome, -⟩ := scan?_append hv w
      rw [← hcs, hscan] at hsome
      cases hsome
  | case3 k cs _ t rest hscan e hmore ih =>
      cases h
      obtain ⟨l, rfl, hl, hend⟩ := scan?_iff.mp hscan
      obtain ⟨ts, v, u, rfl, hv, hne, hnone, rfl⟩ := ih hmore
      refine ⟨t :: ts, l ++ v, u, (List.append_assoc ..).symm, .cons hl hend hv, hne, hnone, ?_⟩
      simp only [List.length_append]
      omega
  | case4 => cases h

/-- A text of tokens, cut in two between two of them. -/
structure Cut (ts : List Token) (cs : List Char) (qs rs : List Token) (l u : List Char) : Prop where
  tokens : ts = qs ++ rs
  text : cs = l ++ u
  left : Taken qs l u
  right : Lexes rs u

/-- The error of a row of tokens that is refused at the rest of it. -/
def errorOf (lead cs : List Char) : List Placed → SelectorError
  | [] => .unexpectedEnd
  | p :: _ => errorAt (Text.utf8Length lead) cs p.start

theorem errorOf_eq {rest : List Placed} (h : tokens l.length u = .ok rest) :
    errorOf lead (l ++ u) rest = .behind (lead ++ l) u := by
  cases rest with
  | nil =>
      have hu : Lexes [] u := tokens_sound h
      cases hu
      rfl
  | cons p rest =>
      obtain ⟨_, _, -, -, -, hstart, -⟩ := tokens_cons_inv h
      rw [errorOf, hstart, errorAt_eq]

theorem cut_of_tokens (lead : List Char) {qs rs : List Placed}
    (h : Selector.tokens 0 cs = .ok (qs ++ rs)) :
    ∃ l u, Cut (sentence (qs ++ rs)) cs (sentence qs) (sentence rs) l u ∧
      errorOf lead cs rs = .behind (lead ++ l) u := by
  obtain ⟨l, u, rfl, hl, hu⟩ := tokens_append_inv qs h
  rw [Nat.zero_add] at hu
  exact ⟨l, u, ⟨sentence_append .., rfl, hl, tokens_sound hu⟩, errorOf_eq hu⟩

/-! ## The place of the error -/

/-- The three ways in which a text is refused, `cs` being what is left of it when it is trimmed and
`lead` the blanks before that. -/
inductive Fails (lead cs : List Char) : SelectorError → Prop
  | blank : cs = [] → Fails lead cs .empty
  | scanning {place : Nat} : cs ≠ [] → Selector.tokens 0 cs = .error place →
      Fails lead cs (errorAt (Text.utf8Length lead) cs place)
  | reading {ps rest : List Placed} : cs ≠ [] → Selector.tokens 0 cs = .ok ps →
      readGroup (ps.length + 1) ps = .error rest → Fails lead cs (errorOf lead cs rest)

theorem fails_of_read (h : Selector.read text = .error err) :
    Fails (text.toList.takeWhile Text.isBlank) (Text.trim text).toList err := by
  unfold Selector.read at h
  simp only [List.isEmpty_iff] at h
  generalize (Text.trim text).toList = cs at h ⊢
  generalize text.toList.takeWhile Text.isBlank = lead at h ⊢
  split at h
  · next hnil => cases h; exact .blank hnil
  · next hne =>
      split at h
      · next hscan => cases h; exact .scanning hne hscan
      · next hscan =>
          split at h
          · cases h
          · next hread => cases h; exact .reading hne hscan hread
          · next hread => cases h; exact .reading hne hscan hread

/-- Behind more of the text the error is another one. -/
theorem behind_ne (before : List Char) (hu : u ≠ []) (hl : l ≠ []) (v : List Char) :
    SelectorError.behind before u ≠ .behind (before ++ l) v := by
  intro h
  cases u with
  | nil => exact hu rfl
  | cons ch u =>
      cases v with
      | nil => cases h
      | cons ch' v =>
          obtain ⟨-, hbytes⟩ := SelectorError.unexpected.inj h
          rw [String.ofList_append, String.utf8ByteSize_append, Nat.left_eq_add,
            String.utf8ByteSize_eq_zero_iff] at hbytes
          exact hl (String.ofList_eq_empty_iff.mp hbytes)

/-- The error of a row of tokens that is refused, at the place that the grammar says. -/
theorem reading_place {ps rest : List Placed} (hps : Selector.tokens 0 cs = .ok ps)
    (h : readGroup (ps.length + 1) ps = .error rest) :
    ∃ qs rs l u, Cut (sentence ps) cs qs rs l u ∧ Viable qs ∧
      (∀ t ∈ rs.head?, ¬ Viable (qs ++ [t])) ∧
      (errorOf lead cs rest = .behind (lead ++ l) u ∧ (∀ pre part, ¬ BreaksOff qs pre part) ∨
        ∃ pre part v w, BreaksOff qs pre part ∧
          Cut (sentence ps) cs pre (.openBracket :: (part ++ rs)) v w ∧
          errorOf lead cs rest = .behind (lead ++ v) w ∧
          errorOf lead cs rest ≠ .behind (lead ++ l) u) := by
  obtain ⟨qs, us, rfl, hviable, hdead, hplace⟩ := readGroup_error h (Nat.lt_succ_self _)
  have hdead : ∀ t ∈ (sentence us).head?, ¬ Viable (sentence qs ++ [t]) := by
    intro t ht
    obtain ⟨i, us', rfl, -⟩ := sentence_eq_cons.mp (List.head?_eq_some_iff.mp ht).choose_spec
    exact hdead _ rfl
  rcases hplace with ⟨rfl, hwhole⟩ | ⟨pre, i, part, rfl, rfl, hoff⟩
  · obtain ⟨l, u, hcut, herr⟩ := cut_of_tokens lead hps
    exact ⟨_, _, l, u, hcut, hviable, hdead, .inl ⟨herr, hwhole⟩⟩
  · -- One cut at the bracket and one behind the condition, with some text between them.
    rw [List.append_assoc, List.cons_append] at hps ⊢
    obtain ⟨v, w, rfl, hpre, hw⟩ := tokens_append_inv pre hps
    rw [Nat.zero_add] at hw
    obtain ⟨m, u, rfl, hm, hu⟩ := tokens_append_inv (⟨.openBracket, i⟩ :: part) hw
    have hrest := tokens_sound hw
    have herr : errorOf lead (v ++ (m ++ u)) _ = _ := errorOf_eq hw
    refine ⟨_, _, v ++ m, u, ⟨?_, (List.append_assoc ..).symm, ?_, tokens_sound hu⟩, hviable, hdead,
      .inr ⟨_, _, v, m ++ u, hoff, ⟨?_, rfl, hpre, ?_⟩, herr, ?_⟩⟩
    · simp [sentence]
    · rw [sentence_append]
      exact hpre.append hm
    · simp [sentence]
    · simpa [sentence] using hrest
    · rw [herr, ← List.append_assoc]
      exact behind_ne _ hrest.ne_nil hm.ne_nil _

/-- The error of a text that does not split into tokens, where it does not. -/
theorem scanning_place (h : Selector.tokens 0 cs = .error place) : ∃ ts l u, cs = l ++ u ∧
    Taken ts l u ∧ u ≠ [] ∧ (∀ t v w, u = v ++ w → ¬ Lexeme t v) ∧
    errorAt (Text.utf8Length lead) cs place = .behind (lead ++ l) u := by
  obtain ⟨ts, l, u, rfl, hl, hne, hnone, rfl⟩ := tokens_error h
  exact ⟨ts, l, u, rfl, hl, hne, hnone, by rw [Nat.zero_add, errorAt_eq]⟩

/-- A text is refused because nothing is left of it, or at a place of what is left. -/
theorem Fails.located (h : Fails lead cs err) :
    (cs = [] ∧ err = .empty) ∨ (cs ≠ [] ∧ ∃ l u, cs = l ++ u ∧ err = .behind (lead ++ l) u) := by
  cases h with
  | blank hnil => exact .inl ⟨hnil, rfl⟩
  | scanning hne hscan =>
      obtain ⟨_, l, u, hcs, -, -, -, herr⟩ := scanning_place hscan
      exact .inr ⟨hne, l, u, hcs, herr⟩
  | reading hne hscan hread =>
      refine .inr ⟨hne, ?_⟩
      obtain ⟨_, _, l, u, hcut, -, -, ⟨herr, -⟩ | ⟨_, _, v, w, -, hcut', herr, -⟩⟩ :=
        reading_place hscan hread
      · exact ⟨l, u, hcut.text, herr⟩
      · exact ⟨v, w, hcut'.text, herr⟩

/-- Where a text is refused.  It is called empty if and only if it is blank.  Otherwise let `cs` be
the text without the blanks around it.  If `cs` does not split into tokens, the error stands where
the first token fails.  If it does, let `qs` be the longest row of its tokens that some selector
begins with; then the error stands behind `qs`, at the next token or at the end, unless `qs` breaks
off in a condition that its compound begins with.  In that case it stands at the bracket of the
condition, which is another place.  Wherever the error stands, it names the character there and the
bytes before it in the whole text. -/
theorem refusal_place (h : Selector.read text = .error err) :
    let cs := (Text.trim text).toList
    (err = .empty ↔ ∀ c ∈ text.toList, Text.isBlank c = true) ∧
    (∀ ch offset, err = .unexpected ch offset → ∃ before after,
      text.toList = before ++ ch :: after ∧ (String.ofList before).utf8ByteSize = offset) ∧
    ∃ lead trail, text.toList = lead ++ (cs ++ trail) ∧
      (∀ c ∈ lead ++ trail, Text.isBlank c = true) ∧
      (err ≠ .empty →
        ((∀ ts, ¬ Lexes ts cs) → ∃ ts l u, cs = l ++ u ∧ Taken ts l u ∧ u ≠ [] ∧
          (∀ t v w, u = v ++ w → ¬ Lexeme t v) ∧ err = .behind (lead ++ l) u) ∧
        ∀ ts, Lexes ts cs → ∃ qs rs l u, Cut ts cs qs rs l u ∧
          Viable qs ∧ (∀ t ∈ rs.head?, ¬ Viable (qs ++ [t])) ∧
          (err = .behind (lead ++ l) u ∧ (∀ pre part, ¬ BreaksOff qs pre part) ∨
            ∃ pre part v w, BreaksOff qs pre part ∧
              Cut ts cs pre (.openBracket :: (part ++ rs)) v w ∧
              err = .behind (lead ++ v) w ∧ err ≠ .behind (lead ++ l) u)) := by
  intro cs
  obtain ⟨trail, htext, hblank⟩ := Text.trim_between text
  have hfails := fails_of_read h
  generalize text.toList.takeWhile Text.isBlank = lead at htext hblank hfails
  refine ⟨?_, ?_, lead, trail, htext, hblank, fun hne => ⟨fun hnone => ?_, fun ts hts => ?_⟩⟩
  · rw [← Text.trim_eq_nil_iff]
    rcases hfails.located with ⟨hnil, rfl⟩ | ⟨hne, l, u, -, rfl⟩
    · exact iff_of_true rfl hnil
    · refine iff_of_false ?_ hne
      cases u <;> nofun
  · rintro ch offset rfl
    rcases hfails.located with ⟨-, herr⟩ | ⟨-, l, u, hcs, herr⟩
    · cases herr
    · cases u with
      | nil => cases herr
      | cons ch' u =>
          cases herr
          exact ⟨lead ++ l, u ++ trail, by rw [htext, hcs]; simp, rfl⟩
  · cases hfails with
    | blank => exact absurd rfl hne
    | scanning _ hscan => exact scanning_place hscan
    | reading _ hscan _ => exact absurd (tokens_sound hscan) (hnone _)
  · obtain ⟨ps, hps, rfl⟩ := tokens_complete hts 0
    cases hfails with
    | blank => exact absurd rfl hne
    | scanning _ hscan => cases hps.symm.trans hscan
    | reading _ hscan hread =>
        cases hps.symm.trans hscan
        exact reading_place hscan hread

/-- Behind a tag the closing bracket is refused, at its place in bytes. -/
theorem brackets_behind_tag : Selector.read " é[]" = .error (.unexpected ']' 4) ∧
    ∃ before after, " é[]".toList = before ++ ']' :: after ∧
      (String.ofList before).utf8ByteSize = 4 := by
  have hread : Selector.read " é[]" = .error (.unexpected ']' 4) := by decide +kernel
  obtain ⟨-, hplace, -⟩ := refusal_place hread
  exact ⟨hread, hplace ']' 4 rfl⟩

/-- Without a tag the opening one is, though a selector may begin with it. -/
theorem brackets_without_tag :
    Lexes [.openBracket, .closeBracket] (Text.trim "[]").toList ∧
    Viable [.openBracket] ∧ ¬ Viable [.openBracket, .closeBracket] ∧
    Selector.read "[]" ≠ .error (.unexpected ']' 1) ∧
    Selector.read "[]" = .error (.unexpected '[' 0) := by
  have hopen : Lexeme .openBracket ['['] := .openBracket (w := []) (by simp [White])
  have hclose : Lexeme .closeBracket [']'] := .closeBracket (w := []) (by simp [White])
  have hends : Token.Ends .openBracket [']'] := stops_cons.mpr (isMark_bracket.not_white)
  have hread : Selector.read "[]" = .error (.unexpected '[' 0) := by decide +kernel
  refine ⟨.cons hopen hends (.cons hclose trivial .nil), viable_iff.mpr ⟨_, rfl⟩, ?_, ?_, hread⟩
  · rw [viable_iff]
    rintro ⟨_, ⟨⟩⟩
  · rw [hread]
    decide

end Selector

end Inlay
