/-
# `Inlay.Proofs.Selector.Safety` — no selector reaches outside its text or its row

Reading and matching of selectors make three kinds of direct accesses:

    text     a token's name is the slice of the token's text behind its mark, or
             between its quotes; places are counted in bytes
    row      matching starts at the last part of a row, and goes on with the part
             before the one at hand
    blanks   the blanks before a selector are the bytes of the text less those
             that trimming leaves

A slice fails where a place is inside a character.  The marks and the quotes are
single bytes, and a token's text begins with one and may end with one, whatever
characters stand between (`tokenOf_eq`).  A row has a part to begin with because
the grammar has no empty row, and matching stops at the first part before it
would take one from zero.  The parts of a row before place `n` are, from there
down to the first, what is climbed from the part at `n` (`matchesAt_eq`).

What was read as a selector has no compound that asks for nothing
(`isEmpty_of_read`).
-/
import Inlay.Proofs.Document.Safety
import Inlay.Proofs.Selector.Conjunction
import Inlay.Proofs.Selector.Refusal

namespace Inlay

open Selector

/-- All compounds of a row; before the first one there is no combinator that would count. -/
def Complex.parts (row : Complex) : List (Combinator × Compound) :=
  (.descendant, row.first) :: row.rest

namespace Checked

variable {d : Document} {id : NodeId} {text : String} {l cs : List Char} {t : Token}
  {selector : Selector}

/-! ## Slices and differences -/

def minus (n m : Nat) : Checked Nat := if m ≤ n then .ok (n - m) else .error .subtraction

theorem minus_add (n m : Nat) : minus (n + m) m = .ok n := by
  rw [minus, if_pos (Nat.le_add_left m n), Nat.add_sub_cancel]

theorem add_of_minus {n m k : Nat} (h : minus n m = .ok k) : k + m = n := by
  unfold minus at h
  split at h
  · next hle =>
      cases h
      exact Nat.sub_add_cancel hle
  · cases h

/-- The part of a text between two places, which are counted in bytes. -/
def slice (text : String) (start stop : Nat) : Checked String :=
  if h : (⟨start⟩ : String.Pos.Raw).IsValid text ∧ (⟨stop⟩ : String.Pos.Raw).IsValid text ∧
      start ≤ stop then
    .ok (text.extract ⟨⟨start⟩, h.1⟩ ⟨⟨stop⟩, h.2.1⟩)
  else .error .slice

theorem slice_append (u s v : String) :
    slice (u ++ s ++ v) u.utf8ByteSize (u ++ s).utf8ByteSize = .ok s := by
  have hstart : (⟨u.utf8ByteSize⟩ : String.Pos.Raw).IsValid (u ++ s ++ v) :=
    String.Pos.Raw.isValid_iff_exists_append.mpr ⟨u, s ++ v, String.append_assoc .., rfl⟩
  have hstop : (⟨(u ++ s).utf8ByteSize⟩ : String.Pos.Raw).IsValid (u ++ s ++ v) :=
    String.Pos.Raw.isValid_iff_exists_append.mpr ⟨u ++ s, v, rfl, rfl⟩
  rw [slice, dif_pos ⟨hstart, hstop, by simp⟩]
  congr 1
  rw [← String.toByteArray_inj, String.toByteArray_extract, String.toByteArray_append,
    String.toByteArray_append, ByteArray.extract_append]
  simp [← String.size_toByteArray, ByteArray.extract_append_eq_right]

/-- The second place is inside the second character. -/
example : slice "\"é\"" 1 3 = .ok "é" ∧ slice "\"é\"" 1 2 = .error .slice := by decide +kernel

/-! ## Tokens -/

/-- The text between two quotes. -/
def unquote (text : String) : Checked String := do
  let stop ← minus text.utf8ByteSize 1
  slice text 1 stop

/-- The token that a text is made into, for texts of the kind of `t`. -/
def tokenOf (t : Token) (text : String) : Checked Token :=
  match t with
  | .hash _ => (slice text 1 text.utf8ByteSize).map .hash
  | .dot _ => (slice text 1 text.utf8ByteSize).map .dot
  | .name _ => .ok (.name text)
  | .quoted _ => (unquote text).map .quoted
  | t => .ok t

/-- Behind a character of one byte there is a slice up to the end. -/
theorem slice_behind {c : Char} (hc : c.utf8Size = 1) (l : List Char) :
    slice (String.ofList (c :: l)) 1 (String.ofList (c :: l)).utf8ByteSize =
      .ok (String.ofList l) := by
  have h := slice_append (String.singleton c) (String.ofList l) ""
  rwa [String.append_empty, ← String.ofList_cons, String.utf8ByteSize_singleton, hc] at h

/-- Between two characters of one byte there is a slice. -/
theorem unquote_eq {c : Char} (hc : c.utf8Size = 1) (l : List Char) :
    unquote (String.ofList (c :: (l ++ [c]))) = .ok (String.ofList l) := by
  have h := slice_append (String.singleton c) (String.ofList l) (String.singleton c)
  have htext : String.ofList (c :: (l ++ [c])) =
      String.singleton c ++ String.ofList l ++ String.singleton c := by
    rw [← List.cons_append, String.ofList_append, String.ofList_cons]
    rfl
  rw [unquote, htext, String.utf8ByteSize_append, String.utf8ByteSize_singleton, hc, minus_add,
    ok_bind]
  rwa [String.utf8ByteSize_singleton, hc] at h

/-- Every text of a token is made into that token. -/
theorem tokenOf_eq (h : Lexeme t l) : tokenOf t (String.ofList l) = .ok t := by
  cases h with
  | surrounded hm => cases hm <;> rfl
  | openBracket | closeBracket | space | star | name => rfl
  | @hash n => rw [tokenOf, slice_behind rfl]; rfl
  | @dot n => rw [tokenOf, slice_behind rfl]; rfl
  | @quoted q v hq =>
      have hone : q.utf8Size = 1 := by rcases hq with rfl | rfl <;> rfl
      rw [tokenOf, unquote_eq hone]
      rfl

/-- The token at the beginning of a text, made of its text, and what stands behind it. -/
def scan (cs : List Char) : Checked (Option (Token × List Char)) :=
  match scan? cs with
  | none => .ok none
  | some (t, rest) =>
    (tokenOf t (String.ofList (cs.take (cs.length - rest.length)))).map fun t => some (t, rest)

theorem scan_eq (cs : List Char) : scan cs = .ok (scan? cs) := by
  unfold scan
  split
  · next h => rw [h]
  · next t rest h =>
      obtain ⟨l, rfl, hl, -⟩ := scan?_iff.mp h
      rw [List.length_append, Nat.add_sub_cancel, List.take_left, tokenOf_eq hl, h]
      rfl

/-- Split a text into tokens, counting from `start`; or the place where no token begins. -/
def tokens (start : Nat) (cs : List Char) : Checked (Except Nat (List Placed)) :=
  if cs.isEmpty then .ok (.ok [])
  else
    match _h : scan cs with
    | .error bad => .error bad
    | .ok none => .ok (.error start)
    | .ok (some (t, rest)) =>
      match tokens (start + (cs.length - rest.length)) rest with
      | .error bad => .error bad
      | .ok (.error place) => .ok (.error place)
      | .ok (.ok more) => .ok (.ok (⟨t, start⟩ :: more))
termination_by cs.length
decreasing_by exact length_scan? (Except.ok.inj ((scan_eq cs).symm.trans _h))

theorem tokens_of_scan? {start : Nat} {rest : List Char} (h : scan? cs = some (t, rest)) :
    tokens start cs =
      match tokens (start + (cs.length - rest.length)) rest with
      | .error bad => .error bad
      | .ok (.error place) => .ok (.error place)
      | .ok (.ok more) => .ok (.ok (⟨t, start⟩ :: more)) := by
  have hne : ¬ cs.isEmpty = true := by
    intro hnil
    rw [List.isEmpty_iff.mp hnil] at h
    cases h
  rw [tokens, if_neg hne]
  split
  · next hscan => rw [scan_eq, h] at hscan; cases hscan
  · next hscan => rw [scan_eq, h] at hscan; cases hscan
  · next hscan => rw [scan_eq, h] at hscan; cases hscan; rfl

theorem tokens_eq (start : Nat) (cs : List Char) :
    tokens start cs = .ok (Selector.tokens start cs) := by
  fun_induction Selector.tokens start cs with
  | case1 start cs hempty => rw [tokens, if_pos hempty]
  | case2 start cs hempty hscan =>
      rw [tokens, if_neg hempty]
      split
      · next h => rw [scan_eq, hscan] at h; cases h
      · rfl
      · next h => rw [scan_eq, hscan] at h; cases h
  | case3 start cs hempty t rest hscan place hrest ih => rw [tokens_of_scan? hscan, ih, hrest]
  | case4 start cs hempty t rest hscan more hrest ih => rw [tokens_of_scan? hscan, ih, hrest]

/-! ## Reading -/

/-- Read a selector. -/
def read (text : String) : Checked (Except SelectorError Selector) :=
  let trimmed := (Text.trim text).toList
  if trimmed.isEmpty then .ok (.error .empty)
  else do
    let before ← minus text.utf8ByteSize (Text.trimLeft text).utf8ByteSize
    match ← tokens 0 trimmed with
    | .error place => .ok (.error (errorAt before trimmed place))
    | .ok ts =>
      match readGroup (ts.length + 1) ts with
      | .ok groups => .ok (.ok ⟨groups⟩)
      | .error [] => .ok (.error .unexpectedEnd)
      | .error (t :: _) => .ok (.error (errorAt before trimmed t.start))

theorem minus_trimLeft (text : String) :
    minus text.utf8ByteSize (Text.trimLeft text).utf8ByteSize =
      .ok (Text.utf8Length (text.toList.takeWhile Text.isBlank)) := by
  have htext : text.utf8ByteSize =
      Text.utf8Length (text.toList.takeWhile Text.isBlank) + (Text.trimLeft text).utf8ByteSize := by
    rw [Text.trimLeft, Text.dropBlank, ← Text.utf8ByteSize_ofList, ← String.utf8ByteSize_append,
      ← String.ofList_append, List.takeWhile_append_dropWhile, String.ofList_toList]
  rw [htext, minus_add]

theorem read_eq (text : String) : read text = .ok (Selector.read text) := by
  unfold read Selector.read
  simp only
  split
  · rfl
  · rw [minus_trimLeft, ok_bind, tokens_eq, ok_bind]
    cases Selector.tokens 0 (Text.trim text).toList with
    | error place => rfl
    | ok ts =>
        simp only
        cases readGroup (ts.length + 1) ts with
        | ok groups => rfl
        | error rest => cases rest <;> rfl

/-! ## What was read -/

theorem isEmpty_compound {w : WrittenCompound} (h : inCharacters.Compound w l) :
    w.compound.isEmpty = false := by
  cases h with
  | mk htag hss hne =>
      rw [WrittenCompound.compound, Compound.ofWritten_eq]
      cases htag with
      | present _ => rfl
      | absent =>
          cases hss with
          | nil => exact absurd rfl hne
          | @cons s => cases s <;> simp [Compound.isEmpty, Simple.identity?, Simple.word?, Simple.test?]

theorem complex_of_mem {g : List WrittenComplex} (h : inCharacters.Group g l) {w : WrittenComplex}
    (hw : w ∈ g) : ∃ m, inCharacters.Complex w m := by
  induction h with
  | one hc =>
      rw [List.mem_singleton.mp hw]
      exact ⟨_, hc⟩
  | more hc _ _ ih =>
      rcases List.mem_cons.mp hw with rfl | hw
      · exact ⟨_, hc⟩
      · exact ih hw

theorem compound_of_mem {row : List (Combinator × WrittenCompound)} (h : inCharacters.Row row l)
    {link : Combinator × WrittenCompound} (hlink : link ∈ row) :
    ∃ m, inCharacters.Compound link.2 m := by
  induction h with
  | nil => cases hlink
  | cons _ hc _ ih =>
      rcases List.mem_cons.mp hlink with rfl | hlink
      · exact ⟨_, hc⟩
      · exact ih hlink

/-- What was read asks for something in every compound of every row. -/
theorem isEmpty_of_read (h : Selector.read text = .ok selector) {row : Complex}
    (hrow : row ∈ selector.groups) {part : Combinator × Compound} (hpart : part ∈ row.parts) :
    part.2.isEmpty = false := by
  obtain ⟨g, hg, rfl⟩ := read_eq_ok_iff.mp h
  obtain ⟨w, hw, rfl⟩ := List.mem_map.mp hrow
  obtain ⟨m, hm⟩ := complex_of_mem hg hw
  cases hm with
  | mk hfirst hrest =>
      rcases List.mem_cons.mp hpart with rfl | hpart
      · exact isEmpty_compound hfirst
      · obtain ⟨link, hlink, rfl⟩ := List.mem_map.mp hpart
        obtain ⟨_, hcompound⟩ := compound_of_mem hrest hlink
        exact isEmpty_compound hcompound

/-! ## Matching -/

/-- The part of a row at a place. -/
def part (parts : List (Combinator × Compound)) (n : Nat) : Checked (Combinator × Compound) :=
  match parts[n]? with
  | some p => .ok p
  | none => .error .entry

/-- Match a node with the part at `n` of a row, and the nodes above it with the parts before. -/
def matchesAt (d : Document) (parts : List (Combinator × Compound)) (id : NodeId) (n : Nat) :
    Checked Bool :=
  match part parts n with
  | .error bad => .error bad
  | .ok (k, c) =>
    if !c.matchesNode d id then .ok false
    else if n = 0 then .ok true
    else
      match _h : minus n 1 with
      | .error bad => .error bad
      | .ok before =>
        match k with
        | .child =>
          match d.parent? id with
          | none => .ok false
          | some p => matchesAt d parts p before
        | .descendant => (d.ancestors id).anyM fun p => matchesAt d parts p before
termination_by n
decreasing_by all_goals exact Nat.lt_of_succ_le (Nat.le_of_eq (add_of_minus _h))

theorem anyM_eq {α : Type} {f : α → Checked Bool} {p : α → Bool} (h : ∀ x, f x = .ok (p x))
    (xs : List α) : xs.anyM f = .ok (xs.any p) := by
  rw [show f = fun x => pure (p x) from funext h, List.anyM_pure]
  rfl

theorem upward_concat (first c : Compound) (k : Combinator)
    (acc rest : List (Combinator × Compound)) :
    Complex.upward first acc (rest ++ [(k, c)]) =
      ((k, (Complex.upward first acc rest).2) :: (Complex.upward first acc rest).1, c) := by
  induction rest generalizing first acc with
  | nil => rfl
  | cons link rest ih => exact ih _ _

theorem matchesAt_zero {parts : List (Combinator × Compound)} {k : Combinator} {c : Compound}
    (h : parts[0]? = some (k, c)) : matchesAt d parts id 0 = .ok (c.matchesNode d id) := by
  rw [matchesAt, part, h]
  cases hc : c.matchesNode d id <;> simp [hc]

/-- One step up, where the part before is matched without a failure. -/
theorem matchesAt_succ {parts : List (Combinator × Compound)} {n : Nat} {k : Combinator}
    {c above : Compound} {acc : List (Combinator × Compound)} (h : parts[n + 1]? = some (k, c))
    (hbefore : ∀ x, matchesAt d parts x n =
      .ok (above.matchesNode d x && Complex.climbs d acc x)) :
    matchesAt d parts id (n + 1) =
      .ok (c.matchesNode d id && Complex.climbs d ((k, above) :: acc) id) := by
  rw [matchesAt, part, h]
  cases hc : c.matchesNode d id with
  | false => simp [hc]
  | true =>
      have hminus : minus (n + 1) 1 = .ok n := minus_add n 1
      simp only [hc, Bool.not_true, Bool.false_eq_true, if_false, Nat.succ_ne_zero, Bool.true_and]
      split
      · next hbad => rw [hminus] at hbad; cases hbad
      · next hn =>
          rw [hminus] at hn
          cases hn
          cases k with
          | child =>
              rw [Complex.climbs]
              cases d.parent? id with
              | none => rfl
              | some p => exact hbefore p
          | descendant =>
              rw [Complex.climbs]
              exact anyM_eq hbefore _

/-- The part behind `rest` is the subject of the row up to there, and the parts before it are what
is climbed from it; what stands behind it is not looked at. -/
theorem matchesAt_eq (k : Combinator) (first : Compound) (rest tail : List (Combinator × Compound))
    (id : NodeId) :
    matchesAt d ((k, first) :: (rest ++ tail)) id rest.length =
      .ok ((Complex.upward first [] rest).2.matchesNode d id &&
        Complex.climbs d (Complex.upward first [] rest).1 id) := by
  induction rest using List.reverseRecOn generalizing tail id with
  | nil =>
      rw [Complex.upward, Complex.climbs, Bool.and_true]
      exact matchesAt_zero rfl
  | append_singleton rest link ih =>
      obtain ⟨k', c⟩ := link
      rw [upward_concat, List.length_append, List.append_assoc]
      refine matchesAt_succ ?_ fun x => ih ((k', c) :: tail) x
      simp

/-- A row without parts has none to begin with. -/
example (d : Document) (id : NodeId) : matchesAt d [] id 0 = .error .entry := by cbv

/-! ## Rows and groups -/

/-- Match a node with a row, beginning at its last part. -/
def matchesRow (d : Document) (row : Complex) (id : NodeId) : Checked Bool := do
  let last ← minus row.parts.length 1
  matchesAt d row.parts id last

/-- A group matches what one of its alternatives matches. -/
def matchesNode (selector : Selector) (d : Document) (id : NodeId) : Checked Bool :=
  selector.groups.anyM fun row => matchesRow d row id

theorem matchesRow_eq (d : Document) (row : Complex) (id : NodeId) :
    matchesRow d row id = .ok (row.matchesNode d id) := by
  have h := matchesAt_eq (d := d) .descendant row.first row.rest [] id
  rw [List.append_nil] at h
  rw [matchesRow, Complex.parts, List.length_cons, minus_add, ok_bind, h]
  rfl

theorem matchesNode_eq (selector : Selector) (d : Document) (id : NodeId) :
    matchesNode selector d id = .ok (selector.matchesNode d id) :=
  anyM_eq (fun row => matchesRow_eq d row id) _

/-! ## Searching -/

/-- The nodes below `scope` that a selector matches, in document order; none for a text that is
no selector. -/
def find (d : Document) (scope : NodeId) (text : String) : Checked Selection := do
  match ← read text with
  | .ok selector => do
    let nodes ← (d.descendants scope).filterM (matchesNode selector d)
    return ⟨nodes, some text⟩
  | .error _ => return ⟨[], some text⟩

/-- The nodes of the whole document that a selector matches. -/
def select (d : Document) (text : String) : Checked Selection := find d Document.root text

theorem filterAuxM_eq {α : Type} {f : α → Checked Bool} {p : α → Bool} (h : ∀ x, f x = .ok (p x)) :
    ∀ xs acc, List.filterAuxM f xs acc = .ok ((xs.filter p).reverse ++ acc)
  | [], _ => rfl
  | x :: xs, acc => by
      rw [List.filterAuxM, h, ok_bind, filterAuxM_eq h xs]
      cases hx : p x <;> simp [hx]

theorem filterM_eq {α : Type} {f : α → Checked Bool} {p : α → Bool} (h : ∀ x, f x = .ok (p x))
    (xs : List α) : xs.filterM f = .ok (xs.filter p) := by
  rw [List.filterM, filterAuxM_eq h, ok_bind, List.append_nil, List.reverse_reverse]
  rfl

theorem find_eq (d : Document) (scope : NodeId) (text : String) :
    find d scope text = .ok (d.find scope text) := by
  rw [find, Document.find, read_eq, ok_bind]
  cases Selector.read text with
  | error err => rfl
  | ok selector =>
      simp only
      rw [filterM_eq (matchesNode_eq selector d)]
      rfl

end Checked

end Inlay
