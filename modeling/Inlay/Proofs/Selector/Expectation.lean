/-
# `Inlay.Proofs.Selector.Expectation` — where a row of tokens is refused

Behind the tokens that it has read the reader expects one of six things:

                name    *      # .    [         > ws ,     =       quoted   ]
    compound    more    more   more   bracket
    more                       more   bracket   compound
    bracket     test
    test                                                   value            more
    value       close                                              close
    close                                                                   more

and the text may end at `more` (`Expect.step`, `Expect.run`).  The tokens that
run through are those that some selector begins with (`viable_iff`): what is read
runs to `more`, and from every state there is a way to `more`.

Each reader, when it refuses a row of tokens, has run as far as the states allow.
It refuses the row where the run is stuck, with one exception.  A compound is read
with its tag or its first condition, and where there is no tag and the first
condition breaks off, the whole compound counts as missing and is refused at its
beginning.  The states inside a condition remember whether it is such a one
(`isBare`), and `Refused` tells the two apart.
-/
import Inlay.Proofs.Selector.Sentences
import Mathlib.Data.List.Induction

namespace Inlay.Selector

variable {ps qs rest : List Placed} {ts us : List Token} {t : Token} {s : Simple}
  {ss : List Simple} {w : WrittenCompound} {b : Bool} {n : Nat}

/-! ## What may come next -/

/-- What may come next; in a condition it is known whether that is the first thing of its
compound. -/
inductive Expect
  | compound
  | more
  | bracket (bare : Bool)
  | test (bare : Bool)
  | value (bare : Bool)
  | close (bare : Bool)

namespace Expect

variable {x y z : Expect}

/-- What may come behind a token, if it was expected. -/
def step : Expect → Token → Option Expect
  | .compound, .star | .compound, .name _ | .compound, .hash _ | .compound, .dot _ => some .more
  | .compound, .openBracket => some (.bracket true)
  | .more, .hash _ | .more, .dot _ => some .more
  | .more, .openBracket => some (.bracket false)
  | .more, .child | .more, .space | .more, .comma => some .compound
  | .bracket b, .name _ => some (.test b)
  | .test b, .equals => some (.value b)
  | .value b, .name _ | .value b, .quoted _ => some (.close b)
  | .test _, .closeBracket | .close _, .closeBracket => some .more
  | _, _ => none

/-- What may come behind a row of tokens, if every one was expected. -/
def run : Expect → List Token → Option Expect
  | x, [] => some x
  | x, t :: ts => (x.step t).bind (·.run ts)

/-- In a condition that is the first thing of its compound. -/
def isBare : Expect → Bool
  | .bracket b | .test b | .value b | .close b => b
  | _ => false

/-- What comes next was not expected. -/
def Refuses (x : Expect) : List Placed → Prop
  | [] => x ≠ .more
  | p :: _ => x.step p.token = none

theorem run_cons (h : x.step t = some y) : x.run (t :: ts) = y.run ts := by
  rw [run, h, Option.bind_some]

theorem run_append (x : Expect) (ts us : List Token) :
    x.run (ts ++ us) = (x.run ts).bind (·.run us) := by
  induction ts generalizing x with
  | nil => rfl
  | cons t ts ih =>
      rw [List.cons_append, run, run, Option.bind_assoc]
      congr 1
      funext y
      exact ih y

theorem run_append_of (h : x.run ts = some y) : x.run (ts ++ us) = y.run us := by
  rw [run_append, h, Option.bind_some]

theorem run_append_eq_some (h : x.run (ts ++ us) = some z) :
    ∃ y, x.run ts = some y ∧ y.run us = some z := by
  rwa [run_append, Option.bind_eq_some_iff] at h

theorem run_singleton (x : Expect) (t : Token) : x.run [t] = x.step t := by
  rw [run]
  exact Option.bind_fun_some _

/-! ### What is read runs through -/

theorem run_simple (hx : x = .compound ∨ x = .more) (h : SimpleTokens s ts) :
    x.run ts = some .more := by
  rcases hx with rfl | rfl <;> cases h <;> rfl

theorem run_simples (h : inTokens.Simples ss ts) : more.run ts = some .more := by
  induction h with
  | nil => rfl
  | cons hs _ ih => exact (run_append_of (run_simple (.inr rfl) hs)).trans ih

theorem run_compound (h : inTokens.Compound w ts) : compound.run ts = some .more := by
  cases h with
  | mk htag hsimples hne =>
      cases htag with
      | absent =>
          cases hsimples with
          | nil => exact absurd rfl hne
          | cons hs hss => exact (run_append_of (run_simple (.inl rfl) hs)).trans (run_simples hss)
      | present ht =>
          cases ht with
          | star | name => exact run_simples hsimples

theorem step_combinator {k : Combinator} (h : t.combinator? = some k) :
    more.step t = some .compound := by
  cases t <;> first | rfl | cases h

theorem run_row {row : List (Combinator × WrittenCompound)} (h : inTokens.Row row ts) :
    more.run ts = some .more := by
  induction h with
  | nil => rfl
  | cons hk hc _ ih =>
      obtain ⟨t, ht, rfl⟩ := hk
      exact (run_cons (step_combinator ht)).trans ((run_append_of (run_compound hc)).trans ih)

theorem run_complex {c : WrittenComplex} (h : inTokens.Complex c ts) :
    compound.run ts = some .more := by
  cases h with
  | mk hc hrow => exact (run_append_of (run_compound hc)).trans (run_row hrow)

theorem run_group {g : List WrittenComplex} (h : inTokens.Group g ts) :
    compound.run ts = some .more := by
  induction h with
  | one hc => exact run_complex hc
  | more hc hu _ ih =>
      obtain rfl : _ = [Token.comma] := hu
      exact (run_append_of (run_complex hc)).trans ih

end Expect

/-! ## Conditions that break off -/

/-- The tokens that a compound may follow. -/
def Token.separates : Token → Bool
  | .child | .space | .comma => true
  | _ => false

/-- Behind `pre` a compound begins with a condition, and breaks off in it. -/
structure BreaksOff (ts pre part : List Token) : Prop where
  tokens : ts = pre ++ .openBracket :: part
  broken : .closeBracket ∉ part
  begins : ∀ t ∈ pre.getLast?, t.separates = true

namespace Expect

variable {x y : Expect}

theorem step_separates (h : x.step t = some y) (ht : t.separates = true) : y = .compound := by
  cases t <;> cases ht <;> cases x <;> cases h <;> rfl

theorem separates_of_step (h : x.step t = some .compound) : t.separates = true := by
  cases x <;> cases t <;> first | rfl | cases h

theorem isBare_step (h : x.step t = some y) : y.isBare = true ↔
    (x = .compound ∧ t = .openBracket) ∨ (x.isBare = true ∧ t ≠ .closeBracket) := by
  cases x <;> cases t <;> cases h <;> simp [isBare]

theorem isBare_run (hx : x.isBare = true) (hts : Token.closeBracket ∉ ts)
    (h : x.run ts = some y) : y.isBare = true := by
  induction ts generalizing x with
  | nil => cases h; exact hx
  | cons t ts ih =>
      obtain ⟨z, hz, h⟩ := Option.bind_eq_some_iff.mp h
      obtain ⟨ht, hts⟩ := not_or.mp (mt List.mem_cons.mpr hts)
      exact ih ((isBare_step hz).mpr (.inr ⟨hx, Ne.symm ht⟩)) hts h

/-- A compound begins where the text begins, and behind what separates two of them. -/
theorem run_eq_compound_iff (h : compound.run ts = some x) :
    x = .compound ↔ ∀ t ∈ ts.getLast?, t.separates = true := by
  induction ts using List.reverseRecOn with
  | nil =>
      cases h
      simp
  | append_singleton ts t _ =>
      obtain ⟨y, -, ht⟩ := run_append_eq_some h
      rw [run_singleton] at ht
      simp only [List.getLast?_append, List.getLast?_singleton, Option.some_or, Option.mem_some_iff,
        forall_eq']
      exact ⟨fun hx => separates_of_step (hx ▸ ht), step_separates ht⟩

/-- A run ends in the first condition of a compound if and only if that breaks off. -/
theorem isBare_iff (h : compound.run ts = some x) :
    x.isBare = true ↔ ∃ pre part, BreaksOff ts pre part := by
  constructor
  · -- From the end: the last token opened the condition, or stands in it.
    intro hx
    induction ts using List.reverseRecOn generalizing x with
    | nil => cases h; cases hx
    | append_singleton ts t ih =>
        obtain ⟨y, hy, ht⟩ := run_append_eq_some h
        rw [run_singleton] at ht
        rcases (isBare_step ht).mp hx with ⟨rfl, rfl⟩ | ⟨hbare, hne⟩
        · exact ⟨ts, [], rfl, List.not_mem_nil, (run_eq_compound_iff hy).mp rfl⟩
        · obtain ⟨pre, part, rfl, hpart, hpre⟩ := ih hy hbare
          refine ⟨pre, part ++ [t], by simp, ?_, hpre⟩
          simpa [hpart] using Ne.symm hne
  · rintro ⟨pre, part, ⟨rfl, hpart, hpre⟩⟩
    obtain ⟨y, hy, hrun⟩ := run_append_eq_some h
    obtain rfl := (run_eq_compound_iff hy).mpr hpre
    exact isBare_run (x := .bracket true) rfl hpart hrun

end Expect

/-! ## What the readers refuse -/

open Expect

/-- A row of tokens that is read from `x` on is refused at `rest`. -/
inductive Refused (x : Expect) : List Placed → List Placed → Prop
  /-- There the run is stuck. -/
  | stuck (qs : List Placed) {rest : List Placed} {y : Expect} :
      x.run (sentence qs) = some y → y.isBare = false → y.Refuses rest →
      Refused x (qs ++ rest) rest
  /-- There a compound begins with a condition, in which the run is stuck. -/
  | brokenOff (pre : List Placed) {part u : List Placed} {i : Nat} {y : Expect} :
      x.run (sentence pre) = some .compound →
      (Expect.bracket true).run (sentence part) = some y → .closeBracket ∉ sentence part →
      y.Refuses u →
      Refused x (pre ++ ⟨.openBracket, i⟩ :: (part ++ u)) (⟨.openBracket, i⟩ :: (part ++ u))

theorem Refused.behind {x y : Expect} (qs : List Placed) (h : Refused y ps rest)
    (hqs : x.run (sentence qs) = some y) : Refused x (qs ++ ps) rest := by
  cases h with
  | stuck _ hrun hbare hrest =>
      rw [← List.append_assoc]
      refine .stuck _ ?_ hbare hrest
      rw [sentence_append, run_append_of hqs, hrun]
  | brokenOff _ hpre hpart hclose hu =>
      rw [← List.append_assoc]
      refine .brokenOff _ ?_ hpart hclose hu
      rw [sentence_append, run_append_of hqs, hpre]

theorem Expect.refuses_of_heads {x : Expect} (hx : x ≠ .more)
    (h : ∀ t i r, ps = ⟨t, i⟩ :: r → x.step t = none) : x.Refuses ps := by
  cases ps with
  | nil => exact hx
  | cons p r => exact h p.token p.start r rfl

/-- A condition that breaks off behind its name. -/
theorem readTest_refused {name : String} (h : readTest name ps = .error rest) :
    ∃ qs, ps = qs ++ rest ∧ .closeBracket ∉ sentence qs ∧
      ∀ b, ∃ y, (Expect.test b).run (sentence qs) = some y ∧ y.isBare = b ∧ y.Refuses rest := by
  have hclose : ∀ {r} b, (∀ i r', r = ⟨.closeBracket, i⟩ :: r' → False) →
      (Expect.close b).Refuses r := by
    refine fun b hr => refuses_of_heads (by simp) fun t i r' h => ?_
    cases t with
    | closeBracket => exact absurd h (hr i r')
    | _ => rfl
  unfold readTest at h
  split at h
  · cases h
  · cases h
  · cases h
  · next i v j r hr =>
      cases h
      exact ⟨[⟨.equals, i⟩, ⟨.name v, j⟩], rfl, by simp, fun b => ⟨.close b, rfl, rfl, hclose b hr⟩⟩
  · next i v j r hr =>
      cases h
      exact ⟨[⟨.equals, i⟩, ⟨.quoted v, j⟩], rfl, by simp,
        fun b => ⟨.close b, rfl, rfl, hclose b hr⟩⟩
  · next i r _ _ hname hquoted =>
      cases h
      refine ⟨[⟨.equals, i⟩], rfl, by simp,
        fun b => ⟨.value b, rfl, rfl, refuses_of_heads (by simp) fun t j r' hr => ?_⟩⟩
      cases t with
      | name v => exact absurd hr (hname v j r')
      | quoted v => exact absurd hr (hquoted v j r')
      | _ => rfl
  · next hclosed _ _ _ _ hequals =>
      cases h
      refine ⟨[], rfl, by simp,
        fun b => ⟨.test b, rfl, rfl, refuses_of_heads (by simp) fun t j r' hr => ?_⟩⟩
      cases t with
      | closeBracket => exact absurd hr (hclosed j r')
      | equals => exact absurd hr (hequals j r')
      | _ => rfl

/-- A condition that breaks off. -/
theorem readSimple_refused (h : readSimple ps = .error rest) :
    ∃ i qs, ps = ⟨.openBracket, i⟩ :: (qs ++ rest) ∧ .closeBracket ∉ sentence qs ∧
      ∀ b, ∃ y, (Expect.bracket b).run (sentence qs) = some y ∧ y.isBare = b ∧ y.Refuses rest := by
  unfold readSimple at h
  split at h
  · cases h
  · cases h
  · next i name j r =>
      split at h
      · next rest' ht =>
          cases h
          obtain ⟨qs, rfl, hclose, hrun⟩ := readTest_refused ht
          exact ⟨i, ⟨.name name, j⟩ :: qs, rfl, by simpa using hclose, hrun⟩
      · cases h
  · next i r hname =>
      cases h
      refine ⟨i, [], rfl, by simp,
        fun b => ⟨.bracket b, rfl, rfl, refuses_of_heads (by simp) fun t j r' hr => ?_⟩⟩
      cases t with
      | name v => exact absurd hr (hname v j r')
      | _ => rfl
  · cases h

theorem readSimples_refused (h : readSimples ps = .error rest) : Refused .more ps rest := by
  fun_induction readSimples ps generalizing rest with
  | case1 ps e hs =>
      cases h
      obtain ⟨i, qs, rfl, -, hrun⟩ := readSimple_refused hs
      obtain ⟨y, hy, hbare, hrest⟩ := hrun false
      exact .stuck (⟨.openBracket, i⟩ :: qs) hy hbare hrest
  | case2 => cases h
  | case3 ps s r hs e hmore ih =>
      cases h
      obtain ⟨qs, rfl, hsimple⟩ := readSimple_sound hs
      exact (ih hmore).behind qs (run_simple (.inr rfl) hsimple)
  | case4 => cases h

theorem readTagged_refused {tag : String} (h : readCompound.tagged tag ps = .error rest) :
    Refused .more ps rest := by
  unfold readCompound.tagged at h
  split at h
  · next hss =>
      cases h
      exact readSimples_refused hss
  · cases h

theorem readCompound_refused (h : readCompound ps = .error rest) : Refused .compound ps rest := by
  unfold readCompound at h
  split at h
  · next i body => exact (readTagged_refused h).behind [⟨.star, i⟩] rfl
  · next n i body => exact (readTagged_refused h).behind [⟨.name n, i⟩] rfl
  · next hstar hname =>
      split at h
      · next s r hs =>
          split at h
          · next hss =>
              cases h
              obtain ⟨qs, rfl, hsimple⟩ := readSimple_sound hs
              exact (readSimples_refused hss).behind qs (run_simple (.inl rfl) hsimple)
          · cases h
      · next hsome =>
          -- No first condition was read: it broke off, or there is none.
          cases h
          cases hs : readSimple ps with
          | error e =>
              obtain ⟨i, qs, rfl, hclose, hrun⟩ := readSimple_refused hs
              obtain ⟨y, hy, -, hrest⟩ := hrun true
              exact .brokenOff [] rfl hy hclose hrest
          | ok read =>
              obtain ⟨_ | s, r⟩ := read
              · obtain ⟨-, hclosed⟩ := readSimple_eq_none.mp hs
                refine .stuck [] rfl rfl (refuses_of_heads (by simp) fun t i r' hr => ?_)
                have ht : t.opens = false := hclosed ⟨t, i⟩ (by rw [hr]; rfl)
                cases t with
                | star => exact absurd hr (hstar i r')
                | name n => exact absurd hr (hname n i r')
                | hash | dot | openBracket => cases ht
                | _ => rfl
              · exact absurd hs (hsome s r)

/-! ### Rows and groups -/

variable {row : List (Combinator × Compound)}

/-- A row ends where neither a condition nor a combinator follows. -/
theorem readRow_ends (h : readRow n ps = .ok (row, rest)) (hps : Closed ps) :
    Closed rest ∧ ∀ p ∈ rest.head?, p.token.combinator? = none := by
  fun_induction readRow n ps generalizing row rest with
  | case1 => cases h
  | case2 => cases h; exact ⟨hps, by simp⟩
  | case3 n t ts hk => cases h; exact ⟨hps, by simpa using hk⟩
  | case4 => cases h
  | case5 => cases h
  | case6 n t ts k hk c r hc more r' hmore ih =>
      cases h
      obtain ⟨-, -, -, -, hclosed, -⟩ := readCompound_sound hc
      exact ih hmore hclosed

theorem readRow_refused (h : readRow n ps = .error rest) (hn : ps.length < n) :
    Refused .more ps rest := by
  fun_induction readRow n ps generalizing rest with
  | case1 => exact absurd hn (Nat.not_lt_zero _)
  | case2 => cases h
  | case3 => cases h
  | case4 n t ts k hk e hc =>
      cases h
      exact (readCompound_refused hc).behind [t] (run_cons (step_combinator hk))
  | case5 n t ts k hk c r hc e hmore ih =>
      cases h
      obtain ⟨w, qs, rfl, hcompound, -, -⟩ := readCompound_sound hc
      have hlen : r.length < n := by
        simp only [List.length_cons, List.length_append] at hn
        omega
      refine (ih hmore hlen).behind (t :: qs) ?_
      exact (run_cons (step_combinator hk)).trans (run_compound hcompound)
  | case6 => cases h

theorem readComplex_refused (h : readComplex ps = .error rest) : Refused .compound ps rest := by
  unfold readComplex at h
  split at h
  · next hc =>
      cases h
      exact readCompound_refused hc
  · next c r hc =>
      split at h
      · next hrow =>
          cases h
          obtain ⟨w, qs, rfl, hcompound, -, -⟩ := readCompound_sound hc
          exact (readRow_refused hrow (Nat.lt_succ_self _)).behind qs (run_compound hcompound)
      · cases h

theorem readComplex_ends {c : Complex} (h : readComplex ps = .ok (c, rest)) :
    Closed rest ∧ ∀ p ∈ rest.head?, p.token.combinator? = none := by
  unfold readComplex at h
  split at h
  · cases h
  · next c r hc =>
      split at h
      · cases h
      · next hrow =>
          cases h
          obtain ⟨-, -, -, -, hclosed, -⟩ := readCompound_sound hc
          exact readRow_ends hrow hclosed

theorem readGroup_refused (h : readGroup n ps = .error rest) (hn : ps.length < n) :
    Refused .compound ps rest := by
  fun_induction readGroup n ps generalizing rest with
  | case1 => exact absurd hn (Nat.not_lt_zero _)
  | case2 n ps e hc =>
      cases h
      exact readComplex_refused hc
  | case3 => cases h
  | case4 n ps c i r hc ih =>
      obtain ⟨w, qs, rfl, hcomplex, -⟩ := readComplex_sound hc
      have hlen : r.length < n := by
        simp only [List.length_append, List.length_cons] at hn
        omega
      cases hmore : readGroup n r with
      | ok cs => rw [hmore] at h; cases h
      | error e =>
          rw [hmore] at h
          cases h
          have hcomma : Expect.compound.run (sentence (qs ++ [⟨.comma, i⟩])) = some .compound := by
            rw [sentence_append, run_append_of (run_complex hcomplex)]
            rfl
          have := (ih hmore hlen).behind _ hcomma
          rwa [List.append_assoc] at this
  | case5 n ps c r hne hcomma hc =>
      cases h
      obtain ⟨w, qs, rfl, hcomplex, -⟩ := readComplex_sound hc
      obtain ⟨hclosed, hk⟩ := readComplex_ends hc
      refine .stuck qs (run_complex hcomplex) rfl ?_
      cases r with
      | nil => exact absurd rfl hne
      | cons p r =>
          obtain ⟨t, i⟩ := p
          have ht : t.opens = false := hclosed _ rfl
          have hk : t.combinator? = none := hk _ rfl
          show Expect.more.step t = none
          cases t with
          | hash | dot | openBracket => cases ht
          | child | space => cases hk
          | comma => exact absurd rfl (hcomma i r)
          | _ => rfl

/-! ## What may be continued -/

/-- Some selector begins with these tokens. -/
def Viable (ts : List Token) : Prop := ∃ us g, inTokens.Group g (ts ++ us)

/-- Where a row is refused, its tokens do not run to the end. -/
theorem Refused.run_ne {x : Expect} (h : Refused x ps rest) : x.run (sentence ps) ≠ some .more := by
  have hstuck : ∀ {y : Expect} {u : List Placed}, y.Refuses u →
      y.run (sentence u) ≠ some .more := by
    intro y u hu hrun
    cases u with
    | nil => exact hu (Option.some.inj hrun)
    | cons p u =>
        rw [sentence_cons, run, show y.step p.token = none from hu] at hrun
        cases hrun
  cases h with
  | stuck _ hrun _ hrest =>
      rw [sentence_append, run_append_of hrun]
      exact hstuck hrest
  | brokenOff _ hpre hpart _ hu =>
      rw [sentence_append, run_append_of hpre, sentence_cons, run_cons rfl, sentence_append,
        run_append_of hpart]
      exact hstuck hu

theorem run_eq_more_iff : Expect.compound.run ts = some .more ↔ ∃ g, inTokens.Group g ts := by
  constructor
  · -- The reader reads what runs through, for it refuses only what does not.
    intro h
    obtain ⟨ps, rfl⟩ : ∃ ps, sentence ps = ts :=
      ⟨ts.map (⟨·, 0⟩), by rw [sentence, List.map_map]; exact List.map_id ts⟩
    cases hread : readGroup (ps.length + 1) ps with
    | error rest => exact absurd h (readGroup_refused hread (Nat.lt_succ_self _)).run_ne
    | ok cs =>
        obtain ⟨g, hg, -⟩ := readGroup_sound hread
        exact ⟨g, hg⟩
  · rintro ⟨g, hg⟩
    exact run_group hg

/-- From every state there is a way to the end. -/
theorem Expect.exists_run (x : Expect) : ∃ us, x.run us = some .more := by
  cases x with
  | compound => exact ⟨[.star], rfl⟩
  | more => exact ⟨[], rfl⟩
  | bracket => exact ⟨[.name "a", .closeBracket], rfl⟩
  | test | close => exact ⟨[.closeBracket], rfl⟩
  | value => exact ⟨[.name "a", .closeBracket], rfl⟩

theorem viable_iff : Viable ts ↔ ∃ x, Expect.compound.run ts = some x := by
  constructor
  · rintro ⟨us, g, hg⟩
    obtain ⟨x, hx, -⟩ := run_append_eq_some (run_group hg)
    exact ⟨x, hx⟩
  · rintro ⟨x, hx⟩
    obtain ⟨us, hus⟩ := x.exists_run
    exact ⟨us, run_eq_more_iff.mp ((run_append_of hx).trans hus)⟩

theorem Expect.Refuses.not_viable {x : Expect} {p : Placed} (h : x.Refuses (p :: ps))
    (hrun : Expect.compound.run ts = some x) : ¬ Viable (ts ++ [p.token]) := by
  rw [viable_iff, run_append_of hrun, run_singleton, show x.step p.token = none from h]
  simp

/-- A row of tokens is refused behind the longest part of it that some selector begins with; but if
that ends in a compound that begins with a condition and breaks off in it, where this compound
begins. -/
theorem readGroup_error (h : readGroup n ps = .error rest) (hn : ps.length < n) :
    ∃ qs u, ps = qs ++ u ∧ Viable (sentence qs) ∧
      (∀ p ∈ u.head?, ¬ Viable (sentence qs ++ [p.token])) ∧
      (rest = u ∧ (∀ pre part, ¬ BreaksOff (sentence qs) pre part) ∨
        ∃ pre i part, qs = pre ++ ⟨.openBracket, i⟩ :: part ∧
          rest = ⟨.openBracket, i⟩ :: (part ++ u) ∧
          BreaksOff (sentence qs) (sentence pre) (sentence part)) := by
  have hhead : ∀ {y : Expect} {qs u : List Placed}, Expect.compound.run (sentence qs) = some y →
      y.Refuses u → ∀ p ∈ u.head?, ¬ Viable (sentence qs ++ [p.token]) := by
    intro y qs u hrun hu p hp
    obtain ⟨u', rfl⟩ := List.head?_eq_some_iff.mp hp
    exact hu.not_viable hrun
  cases readGroup_refused h hn with
  | stuck qs hrun hbare hrest =>
      refine ⟨qs, rest, rfl, viable_iff.mpr ⟨_, hrun⟩, hhead hrun hrest,
        .inl ⟨rfl, fun pre part hoff => ?_⟩⟩
      rw [(isBare_iff hrun).mpr ⟨pre, part, hoff⟩] at hbare
      cases hbare
  | @brokenOff pre part u i y hpre hpart hclose hu =>
      have hrun : Expect.compound.run (sentence (pre ++ ⟨.openBracket, i⟩ :: part)) = some y := by
        rw [sentence_append, run_append_of hpre, sentence_cons, run_cons rfl, hpart]
      exact ⟨pre ++ ⟨.openBracket, i⟩ :: part, u, by simp, viable_iff.mpr ⟨y, hrun⟩, hhead hrun hu,
        .inr ⟨pre, i, part, rfl, rfl, sentence_append .., hclose,
          (run_eq_compound_iff hpre).mp rfl⟩⟩

end Inlay.Selector
