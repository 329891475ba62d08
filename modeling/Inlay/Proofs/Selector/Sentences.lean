/-
# `Inlay.Proofs.Selector.Sentences` — reading a row of tokens

The grammar of selectors in tokens: the same as in characters, with other
smallest parts.

    tag         star  |  name
    simple      hash  |  dot  |  open name close  |  open name equals value close
    value       name  |  quoted
    combinator  child  |  space
    comma       comma

Each reader of the library takes from a row of tokens what its rule describes and
leaves the rest.  `readX_sound` says that it takes nothing else, `readX_complete`
that it finds whatever is there.  A compound is followed by something that begins
no further condition (`Closed`), for else the reader would go on.
-/
import Mathlib.Data.List.Basic
import Inlay.Proofs.Selector.Grammar

namespace Inlay.Selector

/-! ## In tokens -/

inductive SimpleTokens : Simple → List Token → Prop
  | id {n : String} : SimpleTokens (.id n) [.hash n]
  | word {n : String} : SimpleTokens (.word n) [.dot n]
  | present {n : String} : SimpleTokens (.test (.present n)) [.openBracket, .name n, .closeBracket]
  | bare {n v : String} :
      SimpleTokens (.test (.equals n v)) [.openBracket, .name n, .equals, .name v, .closeBracket]
  | quoted {n v : String} :
      SimpleTokens (.test (.equals n v)) [.openBracket, .name n, .equals, .quoted v, .closeBracket]

inductive TagTokens : String → List Token → Prop
  | star : TagTokens "*" [.star]
  | name {n : String} : TagTokens n [.name n]

/-- Selectors in tokens. -/
def inTokens : Spelling Token where
  tag := TagTokens
  simple := SimpleTokens
  combinator k ts := ∃ t, t.combinator? = some k ∧ ts = [t]
  comma ts := ts = [.comma]

/-- The tokens without their places. -/
def sentence (ps : List Placed) : List Token := ps.map (·.token)

variable {ps rest : List Placed} {s : Simple} {ss : List Simple} {ts : List Token}

@[simp] theorem sentence_nil : sentence [] = [] := rfl

@[simp] theorem sentence_cons (p : Placed) (ps : List Placed) :
    sentence (p :: ps) = p.token :: sentence ps := rfl

theorem sentence_append (ps qs : List Placed) : sentence (ps ++ qs) = sentence ps ++ sentence qs :=
  List.map_append

theorem sentence_eq_nil : sentence ps = [] ↔ ps = [] := List.map_eq_nil_iff

theorem sentence_eq_cons {t : Token} : sentence ps = t :: ts ↔
    ∃ i qs, ps = ⟨t, i⟩ :: qs ∧ sentence qs = ts := by
  constructor
  · intro h
    obtain ⟨⟨t, i⟩, qs, rfl, rfl, hqs⟩ := List.map_eq_cons_iff.mp h
    exact ⟨i, qs, rfl, hqs⟩
  · rintro ⟨i, qs, rfl, rfl⟩
    rfl

theorem sentence_eq_append {us : List Token} : sentence ps = ts ++ us ↔
    ∃ qs rs, ps = qs ++ rs ∧ sentence qs = ts ∧ sentence rs = us := List.map_eq_append_iff

/-! ## Conditions -/

/-- The tokens that begin a condition. -/
def Token.opens : Token → Bool
  | .hash _ | .dot _ | .openBracket => true
  | _ => false

/-- No condition begins here. -/
def Closed (ps : List Placed) : Prop := ∀ p ∈ ps.head?, p.token.opens = false

theorem readTest_sound {n : String} {t : AttributeTest} (h : readTest n ps = .ok (t, rest)) :
    ∃ qs, ps = qs ++ rest ∧ ∀ i j,
      SimpleTokens (.test t) (sentence (⟨.openBracket, i⟩ :: ⟨.name n, j⟩ :: qs)) := by
  unfold readTest at h
  split at h
  · next i r => cases h; exact ⟨[⟨.closeBracket, i⟩], rfl, fun _ _ => .present⟩
  · next i v j k r =>
      cases h
      exact ⟨[⟨.equals, i⟩, ⟨.name v, j⟩, ⟨.closeBracket, k⟩], rfl, fun _ _ => .bare⟩
  · next i v j k r =>
      cases h
      exact ⟨[⟨.equals, i⟩, ⟨.quoted v, j⟩, ⟨.closeBracket, k⟩], rfl, fun _ _ => .quoted⟩
  all_goals cases h

theorem readSimple_sound (h : readSimple ps = .ok (some s, rest)) :
    ∃ qs, ps = qs ++ rest ∧ SimpleTokens s (sentence qs) := by
  unfold readSimple at h
  split at h
  · next n i r => cases h; exact ⟨[⟨.hash n, i⟩], rfl, .id⟩
  · next n i r => cases h; exact ⟨[⟨.dot n, i⟩], rfl, .word⟩
  · next i n j r =>
      split at h
      · cases h
      · next t r' ht =>
          cases h
          obtain ⟨qs, rfl, hqs⟩ := readTest_sound ht
          exact ⟨⟨.openBracket, i⟩ :: ⟨.name n, j⟩ :: qs, rfl, hqs i j⟩
  · cases h
  · cases h

theorem readSimple_complete (h : SimpleTokens s (sentence ps)) (rest : List Placed) :
    readSimple (ps ++ rest) = .ok (some s, rest) := by
  generalize hts : sentence ps = ts at h
  cases h <;> simp only [sentence_eq_cons, sentence_eq_nil] at hts
  case id => obtain ⟨_, _, rfl, rfl⟩ := hts; rfl
  case word => obtain ⟨_, _, rfl, rfl⟩ := hts; rfl
  case present => obtain ⟨_, _, rfl, _, _, rfl, _, _, rfl, rfl⟩ := hts; rfl
  case bare =>
    obtain ⟨_, _, rfl, _, _, rfl, _, _, rfl, _, _, rfl, _, _, rfl, rfl⟩ := hts
    rfl
  case quoted =>
    obtain ⟨_, _, rfl, _, _, rfl, _, _, rfl, _, _, rfl, _, _, rfl, rfl⟩ := hts
    rfl

theorem readSimple_eq_none : readSimple ps = .ok (none, rest) ↔ rest = ps ∧ Closed ps := by
  unfold readSimple
  split
  · simp [Closed, Token.opens]
  · simp [Closed, Token.opens]
  · split <;> simp [Closed, Token.opens]
  · simp [Closed, Token.opens]
  · next hhash hdot hname hopen =>
      have hclosed : Closed ps := by
        rintro ⟨t, i⟩ hp
        obtain ⟨r, rfl⟩ := List.head?_eq_some_iff.mp hp
        cases t with
        | hash n => exact absurd rfl (hhash n i r)
        | dot n => exact absurd rfl (hdot n i r)
        | openBracket => exact absurd rfl (hopen i r)
        | _ => rfl
      simp [hclosed, eq_comm]

theorem SimpleTokens.ne_nil (h : SimpleTokens s ts) : ts ≠ [] := by
  cases h <;> simp

theorem readSimples_of_none (h : readSimple ps = .ok (none, rest)) :
    readSimples ps = .ok ([], rest) := by
  rw [readSimples]
  split
  · next hs => cases h.symm.trans hs
  · next hs =>
      cases h.symm.trans hs
      rfl
  · next hs => cases h.symm.trans hs

theorem readSimples_of_some (h : readSimple ps = .ok (some s, rest)) :
    readSimples ps = (readSimples rest).map fun (ss, r) => (s :: ss, r) := by
  rw [readSimples]
  split
  · next hs => cases h.symm.trans hs
  · next hs => cases h.symm.trans hs
  · next hs =>
      cases h.symm.trans hs
      cases readSimples rest <;> rfl

/-- The reader of conditions stops where no further one begins. -/
theorem readSimples_sound (h : readSimples ps = .ok (ss, rest)) :
    ∃ qs, ps = qs ++ rest ∧ inTokens.Simples ss (sentence qs) ∧ Closed rest := by
  fun_induction readSimples ps generalizing ss rest with
  | case1 => cases h
  | case2 ps r hnone =>
      cases h
      obtain ⟨rfl, hclosed⟩ := readSimple_eq_none.mp hnone
      exact ⟨[], rfl, .nil, hclosed⟩
  | case3 => cases h
  | case4 ps s r hs more r' hmore ih =>
      cases h
      obtain ⟨qs, rfl, hsimple⟩ := readSimple_sound hs
      obtain ⟨qs', rfl, hsimples, hclosed⟩ := ih hmore
      refine ⟨qs ++ qs', (List.append_assoc ..).symm, ?_, hclosed⟩
      rw [sentence_append]
      exact .cons hsimple hsimples

theorem readSimples_complete (h : inTokens.Simples ss (sentence ps)) (hrest : Closed rest) :
    readSimples (ps ++ rest) = .ok (ss, rest) := by
  generalize hts : sentence ps = ts at h
  induction h generalizing ps with
  | nil =>
      rw [sentence_eq_nil.mp hts]
      exact readSimples_of_none (readSimple_eq_none.mpr ⟨rfl, hrest⟩)
  | @cons s ss t u hs _ ih =>
      obtain ⟨qs, rs, rfl, rfl, rfl⟩ := sentence_eq_append.mp hts
      have hread := readSimple_complete hs (rs ++ rest)
      rw [List.append_assoc, readSimples_of_some hread, ih rfl]
      rfl

/-! ## Compounds -/

variable {c : Compound} {w : WrittenCompound}

theorem readCompound_of_simple (h : readSimple ps = .ok (some s, rest)) :
    readCompound ps =
      match readSimples rest with
      | .error e => .error e
      | .ok (simples, rest) => .ok (Compound.ofWritten none (s :: simples), rest) := by
  unfold readCompound
  split
  · cases h
  · cases h
  · generalize readSimple ps = read at h ⊢
    subst h
    rfl

theorem compound_of_tag {tag : String} {t : Token} (ht : TagTokens tag [t])
    (hss : inTokens.Simples ss ts) : inTokens.Compound ⟨some tag, ss⟩ (t :: ts) :=
  .mk (t := [t]) (.present ht) hss (by simp)

theorem readTagged_sound {tag : String} (h : readCompound.tagged tag ps = .ok (c, rest)) :
    ∃ ss qs, ps = qs ++ rest ∧ inTokens.Simples ss (sentence qs) ∧ Closed rest ∧
      c = .ofWritten (some tag) ss := by
  unfold readCompound.tagged at h
  split at h
  · cases h
  · next ss r hss =>
      cases h
      obtain ⟨qs, rfl, hsimples, hclosed⟩ := readSimples_sound hss
      exact ⟨ss, qs, rfl, hsimples, hclosed, rfl⟩

theorem readCompound_sound (h : readCompound ps = .ok (c, rest)) :
    ∃ w qs, ps = qs ++ rest ∧ inTokens.Compound w (sentence qs) ∧ Closed rest ∧
      c = w.compound := by
  unfold readCompound at h
  split at h
  · next i body =>
      obtain ⟨ss, qs, rfl, hss, hclosed, rfl⟩ := readTagged_sound h
      exact ⟨⟨some "*", ss⟩, ⟨.star, i⟩ :: qs, rfl, compound_of_tag .star hss, hclosed, rfl⟩
  · next n i body =>
      obtain ⟨ss, qs, rfl, hss, hclosed, rfl⟩ := readTagged_sound h
      exact ⟨⟨some n, ss⟩, ⟨.name n, i⟩ :: qs, rfl, compound_of_tag .name hss, hclosed, rfl⟩
  · split at h
    · next s r hs =>
        split at h
        · cases h
        · next ss r' hss =>
            cases h
            obtain ⟨qs, rfl, hsimple⟩ := readSimple_sound hs
            obtain ⟨qs', rfl, hsimples, hclosed⟩ := readSimples_sound hss
            refine ⟨⟨none, s :: ss⟩, qs ++ qs', (List.append_assoc ..).symm, ?_, hclosed, rfl⟩
            rw [sentence_append]
            exact .mk (t := []) .absent (.cons hsimple hsimples) (by simp [hsimple.ne_nil])
    · cases h

theorem readCompound_complete (h : inTokens.Compound w (sentence ps)) (hrest : Closed rest) :
    readCompound (ps ++ rest) = .ok (w.compound, rest) := by
  generalize hts : sentence ps = ts at h
  cases h with
  | @mk tag simples t u htag hsimples hne =>
      obtain ⟨qs, rs, rfl, rfl, rfl⟩ := sentence_eq_append.mp hts
      have hread := readSimples_complete hsimples hrest
      generalize hqs : sentence qs = ts at htag
      cases htag with
      | absent =>
          rw [sentence_eq_nil.mp hqs, List.nil_append]
          generalize hrs : sentence rs = ts at hsimples hne
          cases hsimples with
          | nil => exact absurd (by rw [hqs]; rfl) hne
          | @cons s ss t u hs hss =>
              obtain ⟨qs', rs', rfl, rfl, rfl⟩ := sentence_eq_append.mp hrs
              have hrest' := readSimples_complete hss hrest
              rw [List.append_assoc, readCompound_of_simple (readSimple_complete hs _), hrest']
              rfl
      | present ht =>
          cases ht <;> simp only [sentence_eq_cons, sentence_eq_nil] at hqs
          case star =>
            obtain ⟨i, _, rfl, rfl⟩ := hqs
            rw [List.cons_append, List.nil_append, List.cons_append, readCompound,
              readCompound.tagged, hread]
            rfl
          case name n =>
            obtain ⟨i, _, rfl, rfl⟩ := hqs
            rw [List.cons_append, List.nil_append, List.cons_append, readCompound,
              readCompound.tagged, hread]
            rfl

/-! ## Rows and groups -/

variable {n : Nat} {row : List (Combinator × WrittenCompound)} {g : List WrittenComplex}

theorem readRow_sound {read : List (Combinator × Compound)} (h : readRow n ps = .ok (read, rest)) :
    ∃ row qs, ps = qs ++ rest ∧ inTokens.Row row (sentence qs) ∧
      read = row.map fun link => (link.1, link.2.compound) := by
  fun_induction readRow n ps generalizing read rest with
  | case1 => cases h
  | case2 => cases h; exact ⟨[], [], rfl, .nil, rfl⟩
  | case3 => cases h; exact ⟨[], [], rfl, .nil, rfl⟩
  | case4 => cases h
  | case5 => cases h
  | case6 n t ts k hk c r hc more r' hmore ih =>
      cases h
      obtain ⟨w, qs, rfl, hcompound, -, rfl⟩ := readCompound_sound hc
      obtain ⟨row, qs', rfl, hrow, rfl⟩ := ih hmore
      refine ⟨(k, w) :: row, t :: (qs ++ qs'), by simp, ?_, rfl⟩
      rw [sentence_cons, sentence_append]
      exact .cons (t := [t.token]) ⟨t.token, hk, rfl⟩ hcompound hrow

/-- What begins with a row begins no condition. -/
theorem closed_row (h : inTokens.Row row (sentence ps)) (hrest : Closed rest) :
    Closed (ps ++ rest) := by
  generalize hts : sentence ps = ts at h
  cases h with
  | nil => rwa [sentence_eq_nil.mp hts]
  | cons hk _ _ =>
      obtain ⟨t, hk, rfl⟩ := hk
      obtain ⟨i, qs, rfl, -⟩ := sentence_eq_cons.mp hts
      intro p hp
      cases hp
      cases t with
      | hash | dot | openBracket => cases hk
      | _ => rfl

theorem readRow_complete (h : inTokens.Row row (sentence ps)) (hrest : Closed rest)
    (hk : ∀ p ∈ rest.head?, p.token.combinator? = none) (hn : ps.length < n) :
    readRow n (ps ++ rest) = .ok (row.map fun link => (link.1, link.2.compound), rest) := by
  generalize hts : sentence ps = ts at h
  induction h generalizing ps n with
  | nil =>
      obtain ⟨n, rfl⟩ := Nat.exists_eq_add_one_of_ne_zero (Nat.ne_zero_of_lt hn)
      rw [sentence_eq_nil.mp hts]
      cases rest with
      | nil => rfl
      | cons p rest => simp only [List.nil_append, readRow, hk p rfl, List.map_nil]
  | @cons k c row t u v hcomb hc hrow ih =>
      obtain ⟨t, ht, rfl⟩ := hcomb
      rw [List.singleton_append] at hts
      obtain ⟨i, qs, rfl, hqs⟩ := sentence_eq_cons.mp hts
      obtain ⟨qs, rs, rfl, rfl, rfl⟩ := sentence_eq_append.mp hqs
      obtain ⟨n, rfl⟩ := Nat.exists_eq_add_one_of_ne_zero (Nat.ne_zero_of_lt hn)
      have hlen : rs.length < n := by
        simp only [List.length_cons, List.length_append] at hn
        omega
      rw [List.cons_append, List.append_assoc, readRow]
      simp only [ht, readCompound_complete hc (closed_row hrow hrest), ih hlen rfl]
      rfl

theorem readComplex_sound {c : Complex} (h : readComplex ps = .ok (c, rest)) :
    ∃ w qs, ps = qs ++ rest ∧ inTokens.Complex w (sentence qs) ∧ c = w.complex := by
  unfold readComplex at h
  split at h
  · cases h
  · next c r hc =>
      split at h
      · cases h
      · next read r' hread =>
          cases h
          obtain ⟨w, qs, rfl, hcompound, -, rfl⟩ := readCompound_sound hc
          obtain ⟨row, qs', rfl, hrow, rfl⟩ := readRow_sound hread
          refine ⟨⟨w, row⟩, qs ++ qs', (List.append_assoc ..).symm, ?_, rfl⟩
          rw [sentence_append]
          exact .mk hcompound hrow

theorem readComplex_complete {w : WrittenComplex} (h : inTokens.Complex w (sentence ps))
    (hrest : Closed rest) (hk : ∀ p ∈ rest.head?, p.token.combinator? = none) :
    readComplex (ps ++ rest) = .ok (w.complex, rest) := by
  generalize hts : sentence ps = ts at h
  cases h with
  | @mk c row t u hc hrow =>
      obtain ⟨qs, rs, rfl, rfl, rfl⟩ := sentence_eq_append.mp hts
      have hlen : rs.length < (rs ++ rest).length + 1 := by
        rw [List.length_append]
        omega
      rw [List.append_assoc, readComplex, readCompound_complete hc (closed_row hrow hrest)]
      simp only [readRow_complete hrow hrest hk hlen]
      rfl

theorem readGroup_sound {cs : List Complex} (h : readGroup n ps = .ok cs) :
    ∃ g, inTokens.Group g (sentence ps) ∧ cs = g.map (·.complex) := by
  fun_induction readGroup n ps generalizing cs with
  | case1 => cases h
  | case2 => cases h
  | case3 n ps c hc =>
      cases h
      obtain ⟨w, qs, rfl, hcomplex, rfl⟩ := readComplex_sound hc
      rw [List.append_nil]
      exact ⟨[w], .one hcomplex, rfl⟩
  | case4 n ps c i r hc ih =>
      obtain ⟨w, qs, rfl, hcomplex, rfl⟩ := readComplex_sound hc
      cases hmore : readGroup n r with
      | error => rw [hmore] at h; cases h
      | ok more =>
          rw [hmore] at h
          cases h
          obtain ⟨g, hg, rfl⟩ := ih hmore
          refine ⟨w :: g, ?_, rfl⟩
          rw [sentence_append, sentence_cons]
          have hcomma : inTokens.comma [.comma] := rfl
          exact .more hcomplex hcomma hg
  | case5 => cases h

theorem readGroup_complete (h : inTokens.Group g (sentence ps)) (hn : ps.length < n) :
    readGroup n ps = .ok (g.map (·.complex)) := by
  generalize hts : sentence ps = ts at h
  induction h generalizing ps n with
  | @one c t hc =>
      obtain ⟨n, rfl⟩ := Nat.exists_eq_add_one_of_ne_zero (Nat.ne_zero_of_lt hn)
      rw [← hts] at hc
      have hread : readComplex (ps ++ []) = .ok (c.complex, []) :=
        readComplex_complete hc (by simp [Closed]) (by simp)
      rw [List.append_nil] at hread
      rw [readGroup, hread]
      rfl
  | @more c cs t u v hc hu _ ih =>
      obtain ⟨qs, rs, rfl, rfl, hrs⟩ := sentence_eq_append.mp hts
      obtain rfl : u = [.comma] := hu
      obtain ⟨i, rs, rfl, rfl⟩ := sentence_eq_cons.mp hrs
      obtain ⟨n, rfl⟩ := Nat.exists_eq_add_one_of_ne_zero (Nat.ne_zero_of_lt hn)
      have hread : readComplex (qs ++ ⟨.comma, i⟩ :: rs) = .ok (c.complex, ⟨.comma, i⟩ :: rs) :=
        readComplex_complete hc (by simp [Closed, Token.opens]) (by simp [Token.combinator?])
      have hlen : rs.length < n := by
        simp only [List.length_append, List.length_cons] at hn
        omega
      rw [readGroup, hread]
      simp only [ih hlen rfl]
      rfl

end Inlay.Selector
