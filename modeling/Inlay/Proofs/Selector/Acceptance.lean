/-
# `Inlay.Proofs.Selector.Acceptance` — what is read as a selector

A text is read as a selector if and only if, trimmed, it is written by the
grammar in characters (`read_eq_ok_iff`), and then it is read as what is written.

From tokens to characters nothing is to be shown but that a token's text may
stand for it (`Spelled`).  From characters to tokens one has to see where each
token ends.  A name ends where no letter follows, and no part of a selector that
may follow another begins with a letter, but for a compound behind a combinator
or a comma.  So the tokens of a part are stated for any text behind it that
begins with no letter (`Splits`), and the parts are put together in that form.
White space ends where a compound begins, which is with neither white space nor
a mark (`IsOpening`).
-/
import Inlay.Proofs.Selector.Lexemes
import Inlay.Proofs.Selector.Sentences

namespace Inlay.Selector

variable {l l' u cs : List Char} {t : Token} {ts us : List Token} {s : Simple} {ss : List Simple}
  {w : WrittenCompound} {row : List (Combinator × WrittenCompound)} {c : WrittenComplex}
  {g : List WrittenComplex}

/-! ## From tokens to characters -/

/-- A text made of texts of these tokens. -/
inductive Spelled : List Token → List Char → Prop
  | nil : Spelled [] []
  | cons {t : Token} {ts : List Token} {l u : List Char} :
      Lexeme t l → Spelled ts u → Spelled (t :: ts) (l ++ u)

theorem Lexes.spelled (h : Lexes ts cs) : Spelled ts cs := by
  induction h with
  | nil => exact .nil
  | cons hl _ _ ih => exact .cons hl ih

namespace Spelled

theorem cons_inv (h : Spelled (t :: ts) cs) : ∃ l u, cs = l ++ u ∧ Lexeme t l ∧ Spelled ts u := by
  cases h with
  | cons hl hu => exact ⟨_, _, rfl, hl, hu⟩

theorem nil_inv (h : Spelled [] cs) : cs = [] := by
  cases h
  rfl

theorem append_inv (h : Spelled (ts ++ us) cs) :
    ∃ l u, cs = l ++ u ∧ Spelled ts l ∧ Spelled us u := by
  induction ts generalizing cs with
  | nil => exact ⟨[], cs, rfl, .nil, h⟩
  | cons t ts ih =>
      obtain ⟨l, u, rfl, hl, hu⟩ := h.cons_inv
      obtain ⟨l', u', rfl, hl', hu'⟩ := ih hu
      exact ⟨l ++ l', u', (List.append_assoc ..).symm, .cons hl hl', hu'⟩

theorem single_inv (h : Spelled [t] cs) : Lexeme t cs := by
  obtain ⟨l, u, rfl, hl, hu⟩ := h.cons_inv
  rwa [hu.nil_inv, List.append_nil]

theorem ne_nil (h : Spelled ts cs) (hne : ts ≠ []) : cs ≠ [] := by
  cases h with
  | nil => exact absurd rfl hne
  | cons hl _ => simp [hl.ne_nil]

end Spelled

theorem valueText_of_tokens {n v : String} (h : SimpleTokens (.test (.equals n v)) ts) :
    ∃ t, ts = [.openBracket, .name n, .equals, t, .closeBracket] ∧
      ∀ {l}, Lexeme t l → ValueText v l := by
  cases h with
  | bare =>
      refine ⟨.name v, rfl, fun hl => ?_⟩
      obtain ⟨hn, rfl⟩ := hl.name_inv
      exact .bare hn
  | quoted =>
      refine ⟨.quoted v, rfl, fun hl => ?_⟩
      obtain ⟨q, v, hq, hv, rfl, rfl⟩ := hl.quoted_inv
      exact .quoted hq hv

theorem simpleText_of_tokens (h : SimpleTokens s ts) (hcs : Spelled ts cs) : SimpleText s cs := by
  have hequals : ∀ n v, s = .test (.equals n v) → SimpleText s cs := by
    rintro n v rfl
    obtain ⟨t, rfl, hvalue⟩ := valueText_of_tokens h
    obtain ⟨_, _, rfl, hopen, h₁⟩ := hcs.cons_inv
    obtain ⟨_, _, rfl, hname, h₂⟩ := h₁.cons_inv
    obtain ⟨_, _, rfl, heq, h₃⟩ := h₂.cons_inv
    obtain ⟨_, _, rfl, hl, hclose⟩ := h₃.cons_inv
    obtain ⟨w, hw, rfl⟩ := hopen.openBracket_inv
    obtain ⟨hn, rfl⟩ := hname.name_inv
    obtain ⟨w₁, w₂, hw₁, hw₂, rfl⟩ := heq.surrounded_inv .equals
    obtain ⟨w', hw', rfl⟩ := hclose.single_inv.closeBracket_inv
    exact .equals hw hn hw₁ hw₂ (hvalue hl) hw'
  cases h with
  | id =>
      obtain ⟨n, hn, rfl, rfl⟩ := hcs.single_inv.hash_inv
      exact .id hn
  | word =>
      obtain ⟨n, hn, rfl, rfl⟩ := hcs.single_inv.dot_inv
      exact .word hn
  | present =>
      obtain ⟨_, _, rfl, hopen, h₁⟩ := hcs.cons_inv
      obtain ⟨_, _, rfl, hname, hclose⟩ := h₁.cons_inv
      obtain ⟨w, hw, rfl⟩ := hopen.openBracket_inv
      obtain ⟨hn, rfl⟩ := hname.name_inv
      obtain ⟨w', hw', rfl⟩ := hclose.single_inv.closeBracket_inv
      exact .present hw hn hw'
  | bare | quoted => exact hequals _ _ rfl

theorem simplesText_of_tokens (h : inTokens.Simples ss ts) (hcs : Spelled ts cs) :
    inCharacters.Simples ss cs := by
  induction h generalizing cs with
  | nil =>
      rw [hcs.nil_inv]
      exact .nil
  | cons hs _ ih =>
      obtain ⟨l, u, rfl, hl, hu⟩ := hcs.append_inv
      exact .cons (simpleText_of_tokens hs hl) (ih hu)

theorem compoundText_of_tokens (h : inTokens.Compound w ts) (hcs : Spelled ts cs) :
    inCharacters.Compound w cs := by
  cases h with
  | mk htag hss hne =>
      have hcs' := hcs.ne_nil hne
      obtain ⟨l, u, rfl, hl, hu⟩ := hcs.append_inv
      refine .mk ?_ (simplesText_of_tokens hss hu) hcs'
      cases htag with
      | absent =>
          rw [hl.nil_inv]
          exact .absent
      | present ht =>
          refine .present ?_
          cases ht with
          | star =>
              rw [hl.single_inv.star_inv]
              exact .star
          | name =>
              obtain ⟨hn, rfl⟩ := hl.single_inv.name_inv
              exact .name hn

theorem combinatorText_of_tokens {k : Combinator} (h : inTokens.combinator k ts)
    (hcs : Spelled ts cs) : CombinatorText k cs := by
  obtain ⟨t, ht, rfl⟩ := h
  cases t <;> cases ht
  case child =>
    obtain ⟨w, w', hw, hw', rfl⟩ := hcs.single_inv.surrounded_inv .child
    exact .child hw hw'
  case space =>
    obtain ⟨hw, hne⟩ := hcs.single_inv.space_inv
    exact .descendant hw hne

theorem rowText_of_tokens (h : inTokens.Row row ts) (hcs : Spelled ts cs) :
    inCharacters.Row row cs := by
  induction h generalizing cs with
  | nil =>
      rw [hcs.nil_inv]
      exact .nil
  | cons hk hc _ ih =>
      obtain ⟨l, _, rfl, hl, hcs⟩ := hcs.append_inv
      obtain ⟨l', u, rfl, hl', hu⟩ := hcs.append_inv
      exact .cons (combinatorText_of_tokens hk hl) (compoundText_of_tokens hc hl') (ih hu)

theorem complexText_of_tokens (h : inTokens.Complex c ts) (hcs : Spelled ts cs) :
    inCharacters.Complex c cs := by
  cases h with
  | mk hc hrow =>
      obtain ⟨l, u, rfl, hl, hu⟩ := hcs.append_inv
      exact .mk (compoundText_of_tokens hc hl) (rowText_of_tokens hrow hu)

theorem groupText_of_tokens (h : inTokens.Group g ts) (hcs : Spelled ts cs) :
    inCharacters.Group g cs := by
  induction h generalizing cs with
  | one hc => exact .one (complexText_of_tokens hc hcs)
  | more hc hcomma _ ih =>
      obtain ⟨l, _, rfl, hl, hcs⟩ := hcs.append_inv
      obtain ⟨l', u, rfl, hl', hu⟩ := hcs.append_inv
      cases hcomma
      obtain ⟨w, w', hw, hw', rfl⟩ := hl'.single_inv.surrounded_inv .comma
      exact .more (complexText_of_tokens hc hl) (.mk hw hw') (ih hu)

/-! ## From characters to tokens -/

/-- A text begins with such a character. -/
def Starts (p : Char → Prop) (l : List Char) : Prop := ∃ c u, l = c :: u ∧ p c

theorem Starts.append {p : Char → Prop} (h : Starts p l) (u : List Char) : Starts p (l ++ u) := by
  obtain ⟨c, l, rfl, hc⟩ := h
  exact ⟨c, l ++ u, rfl, hc⟩

theorem Starts.ne_nil {p : Char → Prop} (h : Starts p l) : l ≠ [] := by
  obtain ⟨c, u, rfl, -⟩ := h
  simp

/-- What begins with a character of one kind begins with none of another. -/
theorem Starts.stops {p q : Char → Prop} (h : Starts p l) (hpq : ∀ c, p c → ¬ q c) : Stops q l := by
  obtain ⟨c, u, rfl, hc⟩ := h
  exact stops_cons.mpr (hpq c hc)

/-- These are the tokens of a text, wherever no letter follows. -/
def Splits (ts : List Token) (l : List Char) : Prop :=
  ∀ us u, Stops IsLetter u → Lexes us u → Lexes (ts ++ us) (l ++ u)

theorem Splits.append (h : Splits ts l) (h' : Splits us l')
    (hstop : ∀ u, Stops IsLetter u → Stops IsLetter (l' ++ u)) : Splits (ts ++ us) (l ++ l') := by
  intro vs u hu hvs
  rw [List.append_assoc, List.append_assoc]
  exact h _ _ (hstop u hu) (h' _ _ hu hvs)

theorem splits_nil : Splits [] [] := fun _ _ _ h => h

theorem Name.single {c : Char} (h : IsLetter c) : Name [c] := ⟨by simp, by simpa using h⟩

theorem Name.starts {n : List Char} (h : Name n) : Starts IsLetter n := by
  obtain ⟨hne, hn⟩ := h
  cases n with
  | nil => exact absurd rfl hne
  | cons c n => exact ⟨c, n, rfl, hn c List.mem_cons_self⟩

/-- Some white space and a character behind it. -/
theorem White.starts {w : List Char} {m : Char} (h : White w) (u : List Char) :
    Starts (fun c => IsWhite c ∨ c = m) (w ++ m :: u) := by
  cases w with
  | nil => exact ⟨m, u, rfl, .inr rfl⟩
  | cons c w => exact ⟨c, _, rfl, .inl (h c List.mem_cons_self)⟩

theorem White.stops_mark {w : List Char} {m : Char} (h : White w) (hm : IsMark m) (u : List Char) :
    Stops IsLetter (w ++ m :: u) := by
  refine (h.starts u).stops fun c hc => ?_
  rcases hc with hc | rfl
  · exact hc.not_letter
  · exact hm.not_letter

theorem stops_white_of_name {n : List Char} (h : Name n) (u : List Char) :
    Stops IsWhite (n ++ u) :=
  (h.starts.append u).stops fun _ hc hw => hw.not_letter hc

/-- A value behind the equals sign is one token. -/
theorem splits_value {n v : String} (h : ValueText v l) :
    ∃ t, SimpleTokens (.test (.equals n v)) [.openBracket, .name n, .equals, t, .closeBracket] ∧
      Lexeme t l ∧ (∀ u, Stops IsWhite (l ++ u)) ∧ ∀ u, Stops IsLetter u → t.Ends u := by
  cases h with
  | bare hn => exact ⟨_, .bare, .name hn, stops_white_of_name hn, fun _ hu => hu⟩
  | quoted hq hv =>
      refine ⟨_, .quoted, .quoted hq hv, fun u => stops_cons.mpr ?_, fun _ _ => trivial⟩
      rcases hq with rfl | rfl <;> simp [IsWhite]

theorem splits_simple (h : SimpleText s l) : ∃ ts, SimpleTokens s ts ∧ Splits ts l := by
  cases h with
  | id hn => exact ⟨_, .id, fun us u hu hus => .cons (.hash hn) hu hus⟩
  | word hn => exact ⟨_, .word, fun us u hu hus => .cons (.dot hn) hu hus⟩
  | @present w n w' hw hn hw' =>
      refine ⟨_, .present, fun us u hu hus => ?_⟩
      have hclose : Lexes (.closeBracket :: us) ((w' ++ [']']) ++ u) :=
        .cons (.closeBracket hw') trivial hus
      have hname := Lexes.cons (.name hn) (hw'.stops_mark isMark_bracket u)
        (by simpa using hclose)
      have hopen := Lexes.cons (.openBracket hw) (stops_white_of_name hn _) hname
      simpa using hopen
  | @equals w n w₁ w₂ t w' v hw hn hw₁ hw₂ hv hw' =>
      obtain ⟨tv, htokens, hlexeme, hwhite, hends⟩ := splits_value (n := String.ofList n) hv
      refine ⟨_, htokens, fun us u hu hus => ?_⟩
      have hclose : Lexes (.closeBracket :: us) ((w' ++ [']']) ++ u) :=
        .cons (.closeBracket hw') trivial hus
      have hvalue := Lexes.cons hlexeme (hends _ (hw'.stops_mark isMark_bracket u))
        (by simpa using hclose)
      have hequals := Lexes.cons (.surrounded .equals hw₁ hw₂) (hwhite _) hvalue
      have hname := Lexes.cons (.name hn) (hw₁.stops_mark Surrounded.equals.isMark _)
        (by simpa using hequals)
      have hopen := Lexes.cons (.openBracket hw) (stops_white_of_name hn _) hname
      simpa using hopen

/-- The characters that a condition begins with. -/
def IsSign (c : Char) : Prop := c = '#' ∨ c = '.' ∨ c = '['

/-- The characters that a compound begins with. -/
def IsOpening (c : Char) : Prop := IsLetter c ∨ c = '*' ∨ IsSign c

theorem IsSign.not_letter {c : Char} (h : IsSign c) : ¬ IsLetter c := by
  rcases h with rfl | rfl | rfl <;> simp [IsLetter]

theorem IsOpening.not_white_or_mark {c : Char} (h : IsOpening c) : ¬ (IsWhite c ∨ IsMark c) := by
  rcases h with h | rfl | rfl | rfl | rfl
  · exact fun hc => hc.elim (·.not_letter h) (·.not_letter h)
  all_goals simp [IsWhite, IsMark]

theorem starts_simple (h : SimpleText s l) : Starts IsSign l := by
  cases h with
  | id => exact ⟨_, _, rfl, .inl rfl⟩
  | word => exact ⟨_, _, rfl, .inr (.inl rfl)⟩
  | present | equals => exact ⟨_, _, rfl, .inr (.inr rfl)⟩

theorem starts_simples (h : inCharacters.Simples ss l) (hne : l ≠ []) : Starts IsSign l := by
  cases h with
  | nil => exact absurd rfl hne
  | cons hs _ => exact (starts_simple hs).append _

theorem stops_simples (h : inCharacters.Simples ss l) (hu : Stops IsLetter u) :
    Stops IsLetter (l ++ u) := by
  by_cases hl : l = []
  · rwa [hl]
  · exact ((starts_simples h hl).append u).stops fun _ hc => hc.not_letter

theorem splits_simples (h : inCharacters.Simples ss l) :
    ∃ ts, inTokens.Simples ss ts ∧ Splits ts l := by
  induction h with
  | nil => exact ⟨[], .nil, splits_nil⟩
  | cons hs hss ih =>
      obtain ⟨ts, htokens, hsplits⟩ := splits_simple hs
      obtain ⟨us, husTokens, husSplits⟩ := ih
      exact ⟨ts ++ us, .cons htokens husTokens,
        hsplits.append husSplits fun _ hu => stops_simples hss hu⟩

theorem splits_compound (h : inCharacters.Compound w l) :
    ∃ ts, inTokens.Compound w ts ∧ Splits ts l := by
  cases h with
  | @mk tag ss t u htag hss hne =>
      obtain ⟨us, husTokens, husSplits⟩ := splits_simples hss
      cases htag with
      | absent =>
          refine ⟨us, .mk (t := []) .absent husTokens ?_, husSplits⟩
          -- Conditions that are some text are some tokens.
          cases hss with
          | nil => exact absurd rfl hne
          | cons hs hss =>
              cases husTokens with
              | cons hs _ => simp [hs.ne_nil]
      | present ht =>
          have hstop : ∀ v, Stops IsLetter v → Stops IsLetter (u ++ v) :=
            fun _ hv => stops_simples hss hv
          cases ht with
          | star =>
              have hsplits : Splits [.star] ['*'] := fun _ _ _ hvs => .cons .star trivial hvs
              exact ⟨_, compound_of_tag .star husTokens, hsplits.append husSplits hstop⟩
          | name hn =>
              have hsplits : Splits [.name (String.ofList t)] t :=
                fun _ _ hv hvs => .cons (.name hn) hv hvs
              exact ⟨_, compound_of_tag .name husTokens, hsplits.append husSplits hstop⟩

theorem starts_compound (h : inCharacters.Compound w l) : Starts IsOpening l := by
  cases h with
  | @mk tag ss t u htag hss hne =>
      cases htag with
      | absent =>
          obtain ⟨c, v, hu, hc⟩ := starts_simples hss hne
          exact ⟨c, v, hu, .inr (.inr hc)⟩
      | present ht =>
          refine Starts.append ?_ u
          cases ht with
          | star => exact ⟨_, _, rfl, .inr (.inl rfl)⟩
          | name hn =>
              obtain ⟨c, v, hu, hc⟩ := hn.starts
              exact ⟨c, v, hu, .inl hc⟩

/-- A combinator is one token, which ends where a compound begins. -/
theorem splits_combinator {k : Combinator} (h : CombinatorText k l) :
    ∃ t, t.combinator? = some k ∧ Lexeme t l ∧ ∀ u, Starts IsOpening u → t.Ends u := by
  cases h with
  | child hw hw' =>
      refine ⟨.child, rfl, .surrounded .child hw hw', fun u hu => ?_⟩
      exact hu.stops fun _ hc hwhite => hc.not_white_or_mark (.inl hwhite)
  | descendant hw hne =>
      exact ⟨.space, rfl, .space hw hne, fun u hu => hu.stops fun _ hc => hc.not_white_or_mark⟩

theorem stops_combinator {k : Combinator} (h : CombinatorText k l) (u : List Char) :
    Stops IsLetter (l ++ u) := by
  cases h with
  | child hw _ =>
      rw [List.append_assoc, List.cons_append]
      exact hw.stops_mark Surrounded.child.isMark _
  | descendant hw hne =>
      cases l with
      | nil => exact absurd rfl hne
      | cons c l => exact stops_cons.mpr (hw c List.mem_cons_self).not_letter

theorem stops_row (h : inCharacters.Row row l) (hu : Stops IsLetter u) :
    Stops IsLetter (l ++ u) := by
  cases h with
  | nil => exact hu
  | cons hk _ _ =>
      rw [List.append_assoc]
      exact stops_combinator hk _

theorem splits_row (h : inCharacters.Row row l) : ∃ ts, inTokens.Row row ts ∧ Splits ts l := by
  induction h with
  | nil => exact ⟨[], .nil, splits_nil⟩
  | @cons k c row l m n hk hc hrow ih =>
      obtain ⟨t, ht, hlexeme, hends⟩ := splits_combinator hk
      obtain ⟨ts, htokens, hsplits⟩ := splits_compound hc
      obtain ⟨us, husTokens, husSplits⟩ := ih
      refine ⟨[t] ++ (ts ++ us), .cons ⟨t, ht, rfl⟩ htokens husTokens, fun vs u hu hvs => ?_⟩
      have hrest := hsplits.append husSplits (fun _ hu => stops_row hrow hu) vs u hu hvs
      rw [List.append_assoc l]
      exact .cons hlexeme (hends _ (((starts_compound hc).append n).append u)) hrest

theorem splits_complex (h : inCharacters.Complex c l) :
    ∃ ts, inTokens.Complex c ts ∧ Splits ts l := by
  cases h with
  | mk hc hrow =>
      obtain ⟨ts, htokens, hsplits⟩ := splits_compound hc
      obtain ⟨us, husTokens, husSplits⟩ := splits_row hrow
      exact ⟨ts ++ us, .mk htokens husTokens,
        hsplits.append husSplits fun _ hu => stops_row hrow hu⟩

theorem starts_complex (h : inCharacters.Complex c l) : Starts IsOpening l := by
  cases h with
  | mk hc _ => exact (starts_compound hc).append _

theorem starts_group (h : inCharacters.Group g l) : Starts IsOpening l := by
  cases h with
  | one hc => exact starts_complex hc
  | more hc _ _ => exact (starts_complex hc).append _

theorem lexes_group (h : inCharacters.Group g l) : ∃ ts, inTokens.Group g ts ∧ Lexes ts l := by
  induction h with
  | one hc =>
      obtain ⟨ts, htokens, hsplits⟩ := splits_complex hc
      refine ⟨ts, .one htokens, ?_⟩
      simpa using hsplits [] [] (stops_nil _) .nil
  | @more c cs l m n hc hcomma hg ih =>
      obtain ⟨ts, htokens, hsplits⟩ := splits_complex hc
      obtain ⟨us, husTokens, hus⟩ := ih
      obtain ⟨hw, hw'⟩ := hcomma
      have htokens : inTokens.Group (c :: cs) (ts ++ ([.comma] ++ us)) :=
        .more htokens rfl husTokens
      have hend : Stops IsWhite n :=
        (starts_group hg).stops fun _ hc hwhite => hc.not_white_or_mark (.inl hwhite)
      have hlexes := Lexes.cons (.surrounded .comma hw hw') hend hus
      refine ⟨_, htokens, hsplits _ _ ?_ hlexes⟩
      rw [List.append_assoc, List.cons_append]
      exact hw.stops_mark Surrounded.comma.isMark _

/-! ## What is read -/

/-- A text is read as a selector if and only if it is written as one, and it is read as written. -/
theorem read_eq_ok_iff {text : String} {selector : Selector} :
    Selector.read text = .ok selector ↔
      ∃ g, inCharacters.Group g (Text.trim text).toList ∧ selector = .ofWritten g := by
  unfold Selector.read
  constructor
  · intro h
    simp only at h
    split at h
    · cases h
    · split at h
      · cases h
      · next ps hps =>
          split at h
          · next cs hread =>
              cases h
              obtain ⟨g, hg, rfl⟩ := readGroup_sound hread
              exact ⟨g, groupText_of_tokens hg (tokens_sound hps).spelled, rfl⟩
          · cases h
          · cases h
  · rintro ⟨g, hg, rfl⟩
    obtain ⟨ts, htokens, hlexes⟩ := lexes_group hg
    obtain ⟨ps, hps, rfl⟩ := tokens_complete hlexes 0
    have hread := readGroup_complete htokens (Nat.lt_succ_self ps.length)
    have hne : (Text.trim text).toList.isEmpty = false := by
      rw [List.isEmpty_eq_false_iff]
      exact (starts_group hg).ne_nil
    simp only [hne, Bool.false_eq_true, if_false, hps, hread]
    rfl

/-- Reading accepts a text if and only if it is written by the grammar once the blanks around it are
trimmed.  It then gives one alternative for each that is written, with one compound for each that is
written and the combinators between them, in order.  Texts that spell the same group, and so differ
in their runs of white space and the quotes around values at most, are read as one selector. -/
theorem read_accepts_grammar (text : String) :
    ((∃ selector, Selector.read text = .ok selector) ↔
      ∃ g, inCharacters.Group g (Text.trim text).toList) ∧
    (∀ g, inCharacters.Group g (Text.trim text).toList →
      Selector.read text = .ok ⟨g.map fun c =>
        ⟨c.first.compound, c.rest.map fun link => (link.1, link.2.compound)⟩⟩) ∧
    (∀ g text', inCharacters.Group g (Text.trim text).toList →
      inCharacters.Group g (Text.trim text').toList →
      Selector.read text = Selector.read text') := by
  have hread : ∀ {g text}, inCharacters.Group g (Text.trim text).toList →
      Selector.read text = .ok (.ofWritten g) :=
    fun hg => read_eq_ok_iff.mpr ⟨_, hg, rfl⟩
  refine ⟨⟨?_, ?_⟩, fun g hg => hread hg, fun g text' hg hg' => (hread hg).trans (hread hg').symm⟩
  · rintro ⟨selector, h⟩
    obtain ⟨g, hg, -⟩ := read_eq_ok_iff.mp h
    exact ⟨g, hg⟩
  · rintro ⟨g, hg⟩
    exact ⟨_, hread hg⟩

/-- The group that `p > .x` spells. -/
def wordInParagraph : List WrittenComplex := [⟨⟨some "p", []⟩, [(.child, ⟨none, [.word "x"]⟩)]⟩]

theorem wordInParagraph_text {v w : List Char} (hv : White v) (hw : White w) :
    inCharacters.Group wordInParagraph ('p' :: (v ++ '>' :: w ++ ['.', 'x'])) := by
  have hp : Name ['p'] := .single (by simp [IsLetter])
  have hx : Name ['x'] := .single (by simp [IsLetter])
  have hfirst : inCharacters.Compound ⟨some "p", []⟩ ['p'] :=
    .mk (t := ['p']) (.present (TagText.name hp)) .nil (by simp)
  have hword : inCharacters.Compound ⟨none, [.word "x"]⟩ ['.', 'x'] :=
    .mk (t := []) .absent (.cons (t := ['.', 'x']) (SimpleText.word hx) .nil) (by simp)
  have hrow : inCharacters.Row [(.child, ⟨none, [.word "x"]⟩)] (v ++ '>' :: w ++ ['.', 'x']) :=
    .cons (v := []) (CombinatorText.child hv hw) hword .nil
  exact .one (.mk hfirst hrow)

/-- White space around a combinator does not matter, nor do blanks around the text. -/
theorem read_spaced_child :
    (∃ selector, Selector.read "  p >\n .x " = .ok selector) ∧
    Selector.read "  p >\n .x " = Selector.read "p>.x" := by
  have hspaced : inCharacters.Group wordInParagraph (Text.trim "  p >\n .x ").toList :=
    wordInParagraph_text (v := [' ']) (w := ['\n', ' ']) (by simp [White, IsWhite])
      (by simp [White, IsWhite])
  have hplain : inCharacters.Group wordInParagraph (Text.trim "p>.x").toList :=
    wordInParagraph_text (v := []) (w := []) (by simp [White]) (by simp [White])
  obtain ⟨haccept, -, hsame⟩ := read_accepts_grammar "  p >\n .x "
  exact ⟨haccept.mpr ⟨_, hspaced⟩, hsame _ _ hspaced hplain⟩

end Inlay.Selector
