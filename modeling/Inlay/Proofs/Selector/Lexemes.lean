/-
# `Inlay.Proofs.Selector.Lexemes` — the tokens of a text

`Lexeme t l` says which texts are tokens, one rule for each kind:

    child    ws* > ws*       star     *
    comma    ws* , ws*       hash     # name
    equals   ws* = ws*       dot      . name
    open     [ ws*           name     name
    close    ws* ]           quoted   " no " "   or   ' no ' '
    space    ws+

White space may belong to several of them.  `t.Ends u` says that what stands
behind a token neither goes on with it nor makes another token of it.  Scanning
takes the lexeme that ends so (`scan?_iff`), which is the longest that stands
there (`scan?_iff_longest`), and hence splits a text into such lexemes
(`tokens_sound`, `tokens_complete`).
-/
import Mathlib.Data.List.TakeWhile
import Mathlib.Tactic.Tauto
import Inlay.Proofs.Selector.Grammar

namespace Inlay.Selector

variable {c m q : Char} {cs l n u v w : List Char} {s : String} {t : Token}

/-! ## Characters -/

theorem isSpace_iff : Text.isSpace c = true ↔ IsWhite c := by
  simp only [Text.isSpace, Bool.or_eq_true, decide_eq_true_eq, IsWhite]
  tauto

theorem isNameChar_iff : isNameChar c = true ↔ IsLetter c := by
  unfold isNameChar Char.isAlphanum Char.isAlpha Char.isUpper Char.isLower Char.isDigit
  simp only [Bool.or_eq_true, Bool.and_eq_true, decide_eq_true_eq, IsLetter, Char.le_def, ge_iff_le]
  tauto

/-- The marks that take the white space before them. -/
def IsMark (c : Char) : Prop := c = '>' ∨ c = ',' ∨ c = '=' ∨ c = ']'

theorem isMark_bracket : IsMark ']' := .inr (.inr (.inr rfl))

theorem IsWhite.not_letter (h : IsWhite c) : ¬ IsLetter c := by
  rcases h with rfl | rfl | rfl | rfl | rfl <;> simp [IsLetter]

theorem IsMark.not_letter (h : IsMark c) : ¬ IsLetter c := by
  rcases h with rfl | rfl | rfl | rfl <;> simp [IsLetter]

theorem IsMark.not_white (h : IsMark c) : ¬ IsWhite c := by
  rcases h with rfl | rfl | rfl | rfl <;> simp [IsWhite]

/-! ## Runs -/

/-- A text begins with no character of this kind. -/
def Stops (p : Char → Prop) (u : List Char) : Prop := ∀ c ∈ u.head?, ¬ p c

theorem stops_nil (p : Char → Prop) : Stops p [] := by simp [Stops]

theorem stops_cons {p : Char → Prop} : Stops p (c :: u) ↔ ¬ p c := by simp [Stops]

/-- A run and what stops it are what taking and dropping it give. -/
theorem takeWhile_append_of_stops {p : Char → Bool} (hw : ∀ c ∈ w, p c = true)
    (hu : Stops (p · = true) u) : (w ++ u).takeWhile p = w ∧ (w ++ u).dropWhile p = u := by
  rw [List.takeWhile_append_of_pos hw, List.dropWhile_append_of_pos hw]
  cases u with
  | nil => simp
  | cons c u => simp [stops_cons.mp hu]

theorem stops_dropWhile (p : Char → Bool) (cs : List Char) :
    Stops (p · = true) (cs.dropWhile p) := by
  intro c hc
  have := List.head?_dropWhile_not p cs
  rw [Option.mem_def] at hc
  rw [hc] at this
  simpa using this

theorem dropSpace_append (hw : White w) (hu : Stops IsWhite u) : dropSpace (w ++ u) = u :=
  (takeWhile_append_of_stops (fun c hc => isSpace_iff.mpr (hw c hc))
    (by simpa only [Stops, isSpace_iff] using hu)).2

/-- Dropping white space drops a run of it. -/
theorem dropSpace_cases (cs : List Char) :
    ∃ w, cs = w ++ dropSpace cs ∧ White w ∧ Stops IsWhite (dropSpace cs) := by
  have hstop := stops_dropWhile Text.isSpace cs
  simp only [isSpace_iff] at hstop
  exact ⟨cs.takeWhile Text.isSpace, List.takeWhile_append_dropWhile.symm,
    fun c hc => isSpace_iff.mp (List.mem_takeWhile_imp hc), hstop⟩

theorem scanName?_iff : scanName? cs = some (s, u) ↔
    ∃ n, cs = n ++ u ∧ Name n ∧ s = String.ofList n ∧ Stops IsLetter u := by
  constructor
  · intro h
    have hsplit := List.takeWhile_append_dropWhile (p := isNameChar) (l := cs)
    unfold scanName? at h
    split at h
    · cases h
    · next hne =>
        simp only [Option.some.injEq, Prod.mk.injEq] at h
        obtain ⟨rfl, rfl⟩ := h
        refine ⟨_, hsplit.symm, ⟨fun h => hne h, fun c hc => ?_⟩, rfl, ?_⟩
        · exact isNameChar_iff.mp (List.mem_takeWhile_imp hc)
        · simpa only [Stops, isNameChar_iff] using stops_dropWhile isNameChar cs
  · rintro ⟨n, rfl, ⟨hne, hn⟩, rfl, hu⟩
    obtain ⟨htake, hdrop⟩ := takeWhile_append_of_stops (p := isNameChar)
      (fun c hc => isNameChar_iff.mpr (hn c hc)) (by simpa only [Stops, isNameChar_iff] using hu)
    unfold scanName?
    rw [htake, hdrop]
    cases n with
    | nil => exact absurd rfl hne
    | cons c n => rfl

theorem scanQuoted?_iff : scanQuoted? q cs = some (s, u) ↔
    ∃ v, cs = v ++ q :: u ∧ q ∉ v ∧ s = String.ofList v := by
  constructor
  · intro h
    have hsplit := List.takeWhile_append_dropWhile (p := (· ≠ q)) (l := cs)
    unfold scanQuoted? at h
    split at h
    · cases h
    · next c rest hdrop =>
        simp only [Option.some.injEq, Prod.mk.injEq] at h
        obtain ⟨rfl, rfl⟩ := h
        have hstop := stops_dropWhile (· ≠ q) cs
        rw [hdrop, stops_cons] at hstop
        have hc : c = q := by simpa using hstop
        rw [hdrop, hc] at hsplit
        refine ⟨_, hsplit.symm, fun hq => ?_, rfl⟩
        simpa using List.mem_takeWhile_imp hq
  · rintro ⟨v, rfl, hv, rfl⟩
    have hv' : ∀ c ∈ v, decide (c ≠ q) = true := by
      intro c hc
      have : c ≠ q := by
        rintro rfl
        exact hv hc
      simpa using this
    obtain ⟨htake, hdrop⟩ := takeWhile_append_of_stops (u := q :: u) hv' (by simp [stops_cons])
    unfold scanQuoted?
    rw [hdrop, htake]

/-! ## Lexemes -/

/-- The tokens that take the white space on both sides of their mark. -/
inductive Surrounded : Token → Char → Prop
  | child : Surrounded .child '>'
  | comma : Surrounded .comma ','
  | equals : Surrounded .equals '='

/-- The texts of a token. -/
inductive Lexeme : Token → List Char → Prop
  | surrounded {t : Token} {m : Char} {w w' : List Char} :
      Surrounded t m → White w → White w' → Lexeme t (w ++ m :: w')
  | openBracket {w : List Char} : White w → Lexeme .openBracket ('[' :: w)
  | closeBracket {w : List Char} : White w → Lexeme .closeBracket (w ++ [']'])
  | space {w : List Char} : White w → w ≠ [] → Lexeme .space w
  | star : Lexeme .star ['*']
  | hash {n : List Char} : Name n → Lexeme (.hash (String.ofList n)) ('#' :: n)
  | dot {n : List Char} : Name n → Lexeme (.dot (String.ofList n)) ('.' :: n)
  | name {n : List Char} : Name n → Lexeme (.name (String.ofList n)) n
  | quoted {q : Char} {v : List Char} :
      q = '"' ∨ q = '\'' → q ∉ v → Lexeme (.quoted (String.ofList v)) (q :: (v ++ [q]))

/-- What stands behind a token is not part of it, nor of a longer one. -/
def Token.Ends : Token → List Char → Prop
  | .child, u | .comma, u | .equals, u | .openBracket, u => Stops IsWhite u
  | .space, u => Stops (fun c => IsWhite c ∨ IsMark c) u
  | .hash _, u | .dot _, u | .name _, u => Stops IsLetter u
  | .closeBracket, _ | .star, _ | .quoted _, _ => True

theorem Surrounded.isMark (h : Surrounded t m) : IsMark m := by
  cases h with
  | child => exact .inl rfl
  | comma => exact .inr (.inl rfl)
  | equals => exact .inr (.inr (.inl rfl))

theorem Surrounded.ends_iff (h : Surrounded t m) : t.Ends u ↔ Stops IsWhite u := by
  cases h <;> rfl

/-! The texts of one token, kind by kind. -/

namespace Lexeme

theorem surrounded_inv (h : Lexeme t l) (hm : Surrounded t m) :
    ∃ w w', White w ∧ White w' ∧ l = w ++ m :: w' := by
  cases h with
  | surrounded hm' hw hw' =>
      cases hm <;> cases hm' <;> exact ⟨_, _, hw, hw', rfl⟩
  | _ => cases hm

theorem openBracket_inv (h : Lexeme .openBracket l) : ∃ w, White w ∧ l = '[' :: w := by
  cases h with
  | openBracket hw => exact ⟨_, hw, rfl⟩
  | surrounded hm => cases hm

theorem closeBracket_inv (h : Lexeme .closeBracket l) : ∃ w, White w ∧ l = w ++ [']'] := by
  cases h with
  | closeBracket hw => exact ⟨_, hw, rfl⟩
  | surrounded hm => cases hm

theorem space_inv (h : Lexeme .space l) : White l ∧ l ≠ [] := by
  cases h with
  | space hw hne => exact ⟨hw, hne⟩
  | surrounded hm => cases hm

theorem star_inv (h : Lexeme .star l) : l = ['*'] := by
  cases h with
  | star => rfl
  | surrounded hm => cases hm

theorem hash_inv (h : Lexeme (.hash s) l) : ∃ n, Name n ∧ s = String.ofList n ∧ l = '#' :: n := by
  cases h with
  | hash hn => exact ⟨_, hn, rfl, rfl⟩
  | surrounded hm => cases hm

theorem dot_inv (h : Lexeme (.dot s) l) : ∃ n, Name n ∧ s = String.ofList n ∧ l = '.' :: n := by
  cases h with
  | dot hn => exact ⟨_, hn, rfl, rfl⟩
  | surrounded hm => cases hm

theorem name_inv (h : Lexeme (.name s) l) : Name l ∧ s = String.ofList l := by
  cases h with
  | name hn => exact ⟨hn, rfl⟩
  | surrounded hm => cases hm

theorem quoted_inv (h : Lexeme (.quoted s) l) :
    ∃ q v, (q = '"' ∨ q = '\'') ∧ q ∉ v ∧ s = String.ofList v ∧ l = q :: (v ++ [q]) := by
  cases h with
  | quoted hq hv => exact ⟨_, _, hq, hv, rfl, rfl⟩
  | surrounded hm => cases hm

theorem ne_nil (h : Lexeme t l) : l ≠ [] := by
  cases h with
  | space _ hne => exact hne
  | name hn => exact hn.1
  | _ => simp

end Lexeme

/-! ## Scanning -/

theorem Surrounded.scanMark? (h : Surrounded t m) (b : Bool) :
    scanMark? b (m :: u) = some (t, dropSpace u) := by
  cases h <;> rfl

/-- A mark takes the white space behind it, but for `]`; else there is only the space before. -/
theorem scanMark?_cases {b : Bool} (h : scanMark? b cs = some (t, u)) :
    (∃ m rest, cs = m :: rest ∧ Surrounded t m ∧ u = dropSpace rest) ∨
    (t = .closeBracket ∧ cs = ']' :: u) ∨
    (t = .space ∧ b = true ∧ cs = u ∧ Stops IsMark u) := by
  unfold Selector.scanMark? at h
  split at h
  · next rest => cases h; exact .inl ⟨_, rest, rfl, .child, rfl⟩
  · next rest => cases h; exact .inl ⟨_, rest, rfl, .comma, rfl⟩
  · next rest => cases h; exact .inl ⟨_, rest, rfl, .equals, rfl⟩
  · cases h; exact .inr (.inl ⟨rfl, rfl⟩)
  · next hchild hcomma hequals hclose =>
      split at h
      · next hb =>
          cases h
          refine .inr (.inr ⟨rfl, hb, rfl, fun c hc hm => ?_⟩)
          obtain ⟨rest, rfl⟩ := List.head?_eq_some_iff.mp hc
          rcases hm with rfl | rfl | rfl | rfl
          · exact hchild rest rfl
          · exact hcomma rest rfl
          · exact hequals rest rfl
          · exact hclose rest rfl
      · cases h

theorem scan?_of_letter (hc : IsLetter c) :
    scan? (c :: u) = (scanName? (c :: u)).map fun (n, r) => (.name n, r) := by
  have hname := isNameChar_iff.mpr hc
  unfold scan?
  split
  case h_8 _ c' rest _ _ _ _ _ _ h =>
    cases h
    rw [if_pos hname]
  all_goals simp_all +decide

/-- White space is scanned up to the mark behind it, if there is one. -/
theorem scan?_of_white (hc : IsWhite c) : scan? (c :: u) = scanMark? true (dropSpace u) := by
  have hspace := isSpace_iff.mpr hc
  have hname : isNameChar c = false := by
    rw [Bool.eq_false_iff, ne_eq, isNameChar_iff]
    exact hc.not_letter
  rcases hc with rfl | rfl | rfl | rfl | rfl <;> simp [scan?, hname, hspace]

theorem scan?_of_mark (hm : IsMark m) : scan? (m :: u) = scanMark? false (m :: u) := by
  rcases hm with rfl | rfl | rfl | rfl <;> rfl

/-- White space before a mark does not matter. -/
theorem scan?_white_mark (hw : White w) (hm : IsMark m) :
    scan? (w ++ m :: u) = scanMark? true (m :: u) := by
  cases w with
  | nil =>
      rw [List.nil_append, scan?_of_mark hm]
      rcases hm with rfl | rfl | rfl | rfl <;> rfl
  | cons c w =>
      rw [List.cons_append, scan?_of_white (hw c List.mem_cons_self), dropSpace_append]
      · exact fun x hx => hw x (List.mem_cons_of_mem _ hx)
      · exact stops_cons.mpr hm.not_white

theorem scan?_of_lexeme (hl : Lexeme t l) (hu : t.Ends u) : scan? (l ++ u) = some (t, u) := by
  cases hl with
  | @surrounded _ m w w' hm hw hw' =>
      rw [List.append_assoc, List.cons_append, scan?_white_mark hw hm.isMark, hm.scanMark?,
        dropSpace_append hw' (hm.ends_iff.mp hu)]
  | openBracket hw =>
      rw [List.cons_append, scan?, dropSpace_append hw hu]
  | @closeBracket w hw =>
      rw [List.append_assoc, List.cons_append, scan?_white_mark hw isMark_bracket]
      rfl
  | space hw hne =>
      cases l with
      | nil => exact absurd rfl hne
      | cons c w =>
          have hstop : Stops IsWhite u := fun x hx h => hu x hx (.inl h)
          rw [List.cons_append, scan?_of_white (hw c List.mem_cons_self),
            dropSpace_append (fun x hx => hw x (List.mem_cons_of_mem _ hx)) hstop]
          unfold Selector.scanMark?
          split
          case h_5 => rfl
          all_goals simp [Token.Ends, Stops, IsMark] at hu
  | star => rfl
  | hash hn =>
      rw [List.cons_append, scan?, scanName?_iff.mpr ⟨_, rfl, hn, rfl, hu⟩]
      rfl
  | dot hn =>
      rw [List.cons_append, scan?, scanName?_iff.mpr ⟨_, rfl, hn, rfl, hu⟩]
      rfl
  | name hn =>
      have hname := scanName?_iff.mpr ⟨l, rfl, hn, rfl, hu⟩
      cases l with
      | nil => exact absurd rfl hn.1
      | cons c n =>
          rw [List.cons_append] at hname ⊢
          rw [scan?_of_letter (hn.2 c List.mem_cons_self), hname]
          rfl
  | @quoted q v hq hv =>
      have hquoted := (scanQuoted?_iff (u := u)).mpr ⟨v, rfl, hv, rfl⟩
      rcases hq with rfl | rfl
      · rw [List.cons_append, List.append_assoc, List.singleton_append, scan?, hquoted]
        rfl
      · rw [List.cons_append, List.append_assoc, List.singleton_append, scan?, hquoted]
        rfl

/-- What the mark makes of the white space before it. -/
theorem lexeme_of_scanMark? {b : Bool} (hw : White w) (hb : b = true → w ≠ [] ∧ Stops IsWhite cs)
    (h : scanMark? b cs = some (t, u)) : ∃ l, w ++ cs = l ++ u ∧ Lexeme t l ∧ t.Ends u := by
  rcases scanMark?_cases h with ⟨m, rest, rfl, hm, rfl⟩ | ⟨rfl, rfl⟩ | ⟨rfl, hb', rfl, hmark⟩
  · obtain ⟨w', hsplit, hw', hu⟩ := dropSpace_cases rest
    refine ⟨w ++ m :: w', ?_, .surrounded hm hw hw', hm.ends_iff.mpr hu⟩
    rw [List.append_assoc, List.cons_append, ← hsplit]
  · exact ⟨w ++ [']'], by simp, .closeBracket hw, trivial⟩
  · obtain ⟨hne, hwhite⟩ := hb hb'
    exact ⟨w, rfl, .space hw hne, fun x hx h => h.elim (hwhite x hx) (hmark x hx)⟩

/-- A name, and the token that is made of it. -/
theorem name_of_scanName? {f : String → Token}
    (h : (scanName? cs).map (fun (s, r) => (f s, r)) = some (t, u)) :
    ∃ n, cs = n ++ u ∧ Name n ∧ t = f (String.ofList n) ∧ Stops IsLetter u := by
  obtain ⟨⟨s, r⟩, hs, he⟩ := Option.map_eq_some_iff.mp h
  cases he
  obtain ⟨n, hcs, hn, rfl, hu⟩ := scanName?_iff.mp hs
  exact ⟨n, hcs, hn, rfl, hu⟩

theorem lexeme_of_scanQuoted? (hq : q = '"' ∨ q = '\'')
    (h : (scanQuoted? q cs).map (fun (s, r) => (Token.quoted s, r)) = some (t, u)) :
    ∃ l, q :: cs = l ++ u ∧ Lexeme t l ∧ t.Ends u := by
  obtain ⟨⟨s, r⟩, hs, he⟩ := Option.map_eq_some_iff.mp h
  cases he
  obtain ⟨v, rfl, hv, rfl⟩ := scanQuoted?_iff.mp hs
  exact ⟨q :: (v ++ [q]), by simp, .quoted hq hv, trivial⟩

theorem lexeme_of_scan? (h : scan? cs = some (t, u)) :
    ∃ l, cs = l ++ u ∧ Lexeme t l ∧ t.Ends u := by
  unfold scan? at h
  split at h
  case h_1 => cases h
  case h_2 rest => cases h; exact ⟨['*'], rfl, .star, trivial⟩
  case h_3 rest =>
    cases h
    obtain ⟨w, hsplit, hw, hu⟩ := dropSpace_cases rest
    exact ⟨'[' :: w, congrArg ('[' :: ·) hsplit, .openBracket hw, hu⟩
  case h_4 rest =>
    obtain ⟨n, rfl, hn, rfl, hu⟩ := name_of_scanName? h
    exact ⟨'#' :: n, rfl, .hash hn, hu⟩
  case h_5 rest =>
    obtain ⟨n, rfl, hn, rfl, hu⟩ := name_of_scanName? h
    exact ⟨'.' :: n, rfl, .dot hn, hu⟩
  case h_6 rest => exact lexeme_of_scanQuoted? (.inl rfl) h
  case h_7 rest => exact lexeme_of_scanQuoted? (.inr rfl) h
  case h_8 c rest _ _ _ _ _ _ =>
    split at h
    · obtain ⟨n, hcs, hn, rfl, hu⟩ := name_of_scanName? h
      exact ⟨n, hcs, .name hn, hu⟩
    · split at h
      · next hc =>
          obtain ⟨w, hsplit, hw, hstop⟩ := dropSpace_cases rest
          have hwhite : White (c :: w) := by
            intro x hx
            rcases List.mem_cons.mp hx with rfl | hx
            · exact isSpace_iff.mp hc
            · exact hw x hx
          obtain ⟨l, hl⟩ := lexeme_of_scanMark? hwhite (fun _ => ⟨by simp, hstop⟩) h
          rw [List.cons_append, ← hsplit] at hl
          exact ⟨l, hl⟩
      · exact lexeme_of_scanMark? (w := []) (by simp [White]) (by simp) h

/-- Scanning takes the lexeme that ends where it stops. -/
theorem scan?_iff : scan? cs = some (t, u) ↔ ∃ l, cs = l ++ u ∧ Lexeme t l ∧ t.Ends u := by
  constructor
  · exact lexeme_of_scan?
  · rintro ⟨l, rfl, hl, hu⟩
    exact scan?_of_lexeme hl hu

/-! ## The longest match -/

theorem length_dropWhile_append_le {p : Char → Bool} (hl : ∀ c ∈ l, p c = true) (u : List Char) :
    ((l ++ u).dropWhile p).length ≤ u.length := by
  rw [List.dropWhile_append_of_pos hl]
  exact (List.dropWhile_sublist p).length_le

theorem length_dropSpace_append_le (hw : White w) (u : List Char) :
    (dropSpace (w ++ u)).length ≤ u.length :=
  length_dropWhile_append_le (fun c hc => isSpace_iff.mpr (hw c hc)) u

theorem scanName?_append (hn : Name n) (u : List Char) :
    ∃ s u', scanName? (n ++ u) = some (s, u') ∧ u'.length ≤ u.length := by
  have hletters : ∀ c ∈ n, isNameChar c = true := fun c hc => isNameChar_iff.mpr (hn.2 c hc)
  refine ⟨String.ofList ((n ++ u).takeWhile isNameChar), (n ++ u).dropWhile isNameChar, ?_,
    length_dropWhile_append_le hletters u⟩
  unfold scanName?
  split
  · next h =>
      rw [List.takeWhile_append_of_pos hletters, List.append_eq_nil_iff] at h
      exact absurd h.1 hn.1
  · rfl

/-- Where a lexeme begins, scanning takes one that is no shorter. -/
theorem scan?_append (hl : Lexeme t l) (u : List Char) :
    ∃ t' u', scan? (l ++ u) = some (t', u') ∧ u'.length ≤ u.length := by
  cases hl with
  | @surrounded _ m w w' hm hw hw' =>
      refine ⟨t, dropSpace (w' ++ u), ?_, length_dropSpace_append_le hw' u⟩
      rw [List.append_assoc, List.cons_append, scan?_white_mark hw hm.isMark, hm.scanMark?]
  | @openBracket w hw => exact ⟨_, _, rfl, length_dropSpace_append_le hw u⟩
  | @closeBracket w hw =>
      refine ⟨.closeBracket, u, ?_, Nat.le_refl _⟩
      rw [List.append_assoc, List.cons_append, scan?_white_mark hw isMark_bracket]
      rfl
  | space hw hne =>
      cases l with
      | nil => exact absurd rfl hne
      | cons c w =>
          have hle := length_dropSpace_append_le (fun x hx => hw x (List.mem_cons_of_mem _ hx)) u
          rw [List.cons_append, scan?_of_white (hw c List.mem_cons_self)]
          cases hs : Selector.scanMark? true (dropSpace (w ++ u)) with
          | none =>
              unfold Selector.scanMark? at hs
              split at hs <;> cases hs
          | some r =>
              obtain ⟨t', u'⟩ := r
              refine ⟨t', u', rfl, ?_⟩
              rcases length_scanMark?_lt hs with h | ⟨-, rfl⟩
              · exact Nat.le_trans (Nat.le_of_lt h) hle
              · exact hle
  | star => exact ⟨_, _, rfl, Nat.le_refl _⟩
  | @hash n hn =>
      obtain ⟨s, u', hs, hle⟩ := scanName?_append hn u
      exact ⟨.hash s, u', by rw [List.cons_append, scan?, hs]; rfl, hle⟩
  | @dot n hn =>
      obtain ⟨s, u', hs, hle⟩ := scanName?_append hn u
      exact ⟨.dot s, u', by rw [List.cons_append, scan?, hs]; rfl, hle⟩
  | name hn =>
      obtain ⟨s, u', hs, hle⟩ := scanName?_append hn u
      refine ⟨.name s, u', ?_, hle⟩
      cases l with
      | nil => exact absurd rfl hn.1
      | cons c n =>
          rw [List.cons_append] at hs ⊢
          rw [scan?_of_letter (hn.2 c List.mem_cons_self), hs]
          rfl
  | quoted hq hv =>
      exact ⟨_, u, scan?_of_lexeme (.quoted hq hv) trivial, Nat.le_refl _⟩

theorem Token.ends_nil (t : Token) : t.Ends [] := by
  cases t with
  | closeBracket | star | quoted => trivial
  | _ => exact stops_nil _

/-- A text is a text of one token at most. -/
theorem Lexeme.unique {t' : Token} (h : Lexeme t l) (h' : Lexeme t' l) : t = t' := by
  have hscan := scan?_of_lexeme h t.ends_nil
  rw [scan?_of_lexeme h' t'.ends_nil] at hscan
  cases hscan
  rfl

/-- Scanning takes the longest lexeme that a text begins with. -/
theorem scan?_iff_longest : scan? cs = some (t, u) ↔
    ∃ l, cs = l ++ u ∧ Lexeme t l ∧
      ∀ t' l' u', cs = l' ++ u' → Lexeme t' l' → l'.length ≤ l.length := by
  constructor
  · intro h
    obtain ⟨l, hcs, hl, -⟩ := scan?_iff.mp h
    refine ⟨l, hcs, hl, fun t' l' u' hcs' hl' => ?_⟩
    obtain ⟨t'', u'', hscan, hle⟩ := scan?_append hl' u'
    rw [← hcs', h] at hscan
    cases hscan
    have hlen := congrArg List.length (hcs.symm.trans hcs')
    rw [List.length_append, List.length_append] at hlen
    omega
  · rintro ⟨l, rfl, hl, hlongest⟩
    obtain ⟨t', u', hscan, hle⟩ := scan?_append hl u
    obtain ⟨l', hcs, hl', -⟩ := scan?_iff.mp hscan
    have hlen := congrArg List.length hcs
    rw [List.length_append, List.length_append] at hlen
    have := hlongest t' l' u' hcs hl'
    obtain ⟨rfl, rfl⟩ := List.append_inj hcs (by omega)
    rw [hscan, hl.unique hl']

/-! ## Splitting a text -/

/-- A text splits into these tokens. -/
inductive Lexes : List Token → List Char → Prop
  | nil : Lexes [] []
  | cons {t : Token} {ts : List Token} {l u : List Char} :
      Lexeme t l → t.Ends u → Lexes ts u → Lexes (t :: ts) (l ++ u)

theorem tokens_sound {k : Nat} {ps : List Placed} (h : tokens k cs = .ok ps) :
    Lexes (ps.map (·.token)) cs := by
  fun_induction tokens k cs generalizing ps with
  | case1 k cs hempty =>
      cases h
      rw [List.isEmpty_iff.mp hempty]
      exact .nil
  | case2 => cases h
  | case3 => cases h
  | case4 k cs _ t rest hscan more hmore ih =>
      cases h
      obtain ⟨l, rfl, hl, hu⟩ := scan?_iff.mp hscan
      exact .cons hl hu (ih hmore)

theorem tokens_complete {ts : List Token} (h : Lexes ts cs) :
    ∀ k, ∃ ps, tokens k cs = .ok ps ∧ ps.map (·.token) = ts := by
  induction h with
  | nil =>
      intro k
      exact ⟨[], by rw [tokens]; rfl, rfl⟩
  | @cons t ts l u hl hu _ ih =>
      intro k
      obtain ⟨ps, hps, htokens⟩ := ih (k + ((l ++ u).length - u.length))
      have hne : (l ++ u).isEmpty = false := by simp [hl.ne_nil]
      refine ⟨⟨t, k⟩ :: ps, ?_, by rw [List.map_cons, htokens]⟩
      rw [tokens, hne]
      simp only [Bool.false_eq_true, if_false]
      split
      · next h => rw [scan?_of_lexeme hl hu] at h; cases h
      · next h =>
          rw [scan?_of_lexeme hl hu] at h
          cases h
          rw [hps]

end Inlay.Selector
