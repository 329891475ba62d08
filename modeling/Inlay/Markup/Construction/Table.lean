/-
# `Inlay.Markup.Construction.Table` — tables

A table holds its parts in a fixed order, and missing ones are opened
unwritten: a cell opens a row, a row opens a body.  Text in a table is held
back until it is known to be white space; otherwise it, like all other
content that cannot stand in a table, is fostered before the table.
-/
import Inlay.Markup.Construction.Body

namespace Inlay.Markup.Site

/-- Handle an event as in the body, with content that cannot stand here going before the table. -/
def foster (s : Site) (e : Event) : Answer :=
  let (s, more) := { s with fostering := true }.inBody e
  ({ s with fostering := false }, more)

/-- Hold text back while the current element is a table or a part of one. -/
def tableText (s : Site) (e : Event) : Answer :=
  if s.currentIs Name.fosters then { s with returnMode := s.mode }.again .inTableText e
  else s.foster e

/-- The text that was held back, in its order. -/
def flushTableText (s : Site) : Site :=
  let held := s.pending.reverse
  let s := { s with pending := [] }
  if held.any fun | .word _ => true | _ => false then
    held.foldl (fun s e => (s.foster e).1) s
  else
    held.foldl (fun s e => match e with
      | .space text => s.insertText text
      | _ => s) s

def inTableText (s : Site) (e : Event) : Answer :=
  match e with
  | .null => s.done
  | .space _ | .word _ => { s with pending := e :: s.pending }.done
  | e => s.flushTableText.again s.returnMode e

/-- Tags that end what is open between the table and the current element. -/
def isTablePart (tag : String) : Bool :=
  ["caption", "col", "colgroup", "tbody", "td", "tfoot", "th", "thead", "tr"].contains tag

def isRowGroup (tag : String) : Bool := ["tbody", "tfoot", "thead"].contains tag

def inTable (s : Site) (e : Event) : Answer :=
  let cleared := s.popTo Name.boundsTableScope
  match e with
  | .null | .space _ | .word _ => s.tableText e
  | .comment text => (s.insertComment text).done
  | .startTag tag =>
    let name := tag.name
    if name = "caption" then { cleared.mark.open_ tag with mode := .inCaption }.done
    else if name = "colgroup" then { cleared.open_ tag with mode := .inColumnGroup }.done
    else if name = "col" then (cleared.phantom "colgroup").again .inColumnGroup e
    else if isRowGroup name then { cleared.open_ tag with mode := .inTableBody }.done
    else if name = "td" || name = "th" || name = "tr" then
      (cleared.phantom "tbody").again .inTableBody e
    else if name = "table" then
      if s.inScopeNamed Name.boundsTableScope "table" then
        let s := s.popThroughNamed "table"
        s.again s.fittingMode e
      else s.done
    else if name = "style" || name = "script" || name = "template" then s.headElement tag
    else if name = "input" && isHiddenInput tag then (s.void tag).done
    else if name = "form" then
      if s.isOpen "template" || s.form.isSome then s.done
      else
        let (s, n) := s.place ⟨.html, "form"⟩ (plainAttributes tag)
        { s with form := some n }.done
    else s.foster e
  | .endTag tag =>
    let name := tag.name
    if name = "table" then
      if s.inScopeNamed Name.boundsTableScope "table" then
        let s := s.popThroughNamed "table"
        { s with mode := s.fittingMode }.done
      else s.done
    else if isTablePart name || name = "body" || name = "html" then s.done
    else if name = "template" then s.closeTemplate
    else s.foster e
  | .eof => s.inBody e

def inCaption (s : Site) (e : Event) : Answer :=
  let close (again : Bool) : Answer :=
    if s.inScopeNamed Name.boundsTableScope "caption" then
      let s := (s.closeImplied.popThroughNamed "caption").clearFormatting
      if again then s.again .inTable e else { s with mode := .inTable }.done
    else s.done
  match e with
  | .startTag tag => if isTablePart tag.name then close true else s.inBody e
  | .endTag tag =>
    if tag.name = "caption" then close false
    else if tag.name = "table" then close true
    else if isTablePart tag.name || tag.name = "body" || tag.name = "html" then s.done
    else s.inBody e
  | e => s.inBody e

def inColumnGroup (s : Site) (e : Event) : Answer :=
  let leave : Answer :=
    if s.currentNamed "colgroup" then s.pop.again .inTable e else s.done
  match e with
  | .space text => (s.insertText text).done
  | .comment text => (s.insertComment text).done
  | .startTag tag =>
    match tag.name with
    | "html" => s.mergeRoot tag
    | "col" => (s.void tag).done
    | "template" => s.openTemplate tag
    | _ => leave
  | .endTag tag =>
    match tag.name with
    | "colgroup" =>
      if s.currentNamed "colgroup" then { s.pop with mode := .inTable }.done else s.done
    | "col" => s.done
    | "template" => s.closeTemplate
    | _ => leave
  | .eof => s.inBody e
  | _ => leave

def inTableBody (s : Site) (e : Event) : Answer :=
  let cleared := s.popTo Name.boundsTableBody
  let leave : Answer :=
    if s.inScope Name.boundsTableScope fun n => (s.name n).isOneOf ["table", "tbody", "tfoot"] then
      cleared.pop.again .inTable e
    else s.done
  match e with
  | .startTag tag =>
    let name := tag.name
    if name = "tr" then { cleared.open_ tag with mode := .inRow }.done
    else if name = "th" || name = "td" then (cleared.phantom "tr").again .inRow e
    else if isTablePart name then leave
    else s.inTable e
  | .endTag tag =>
    let name := tag.name
    if isRowGroup name then
      if s.inScopeNamed Name.boundsTableScope name then
        { cleared.pop with mode := .inTable }.done
      else s.done
    else if name = "table" then leave
    else if isTablePart name || name = "body" || name = "html" then s.done
    else s.inTable e
  | e => s.inTable e

def inRow (s : Site) (e : Event) : Answer :=
  let cleared := s.popTo Name.boundsTableRow
  let leave : Answer :=
    if s.inScopeNamed Name.boundsTableScope "tr" then cleared.pop.again .inTableBody e
    else s.done
  match e with
  | .startTag tag =>
    let name := tag.name
    if name = "th" || name = "td" then { cleared.open_ tag with mode := .inCell }.mark.done
    else if isTablePart name then leave
    else s.inTable e
  | .endTag tag =>
    let name := tag.name
    if name = "tr" then
      if s.inScopeNamed Name.boundsTableScope "tr" then
        { cleared.pop with mode := .inTableBody }.done
      else s.done
    else if name = "table" then leave
    else if isRowGroup name then
      if s.inScopeNamed Name.boundsTableScope name then leave else s.done
    else if isTablePart name || name = "body" || name = "html" then s.done
    else s.inTable e
  | e => s.inTable e

/-- Close the cell that is open. -/
def closeCell (s : Site) : Site := (s.closeImplied.popThrough Name.isCell).clearFormatting

def inCell (s : Site) (e : Event) : Answer :=
  match e with
  | .startTag tag =>
    if isTablePart tag.name then
      if s.inScope Name.boundsTableScope fun n => (s.name n).isCell then
        s.closeCell.again .inRow e
      else s.done
    else s.inBody e
  | .endTag tag =>
    let name := tag.name
    if name = "td" || name = "th" then
      if s.inScopeNamed Name.boundsTableScope name then
        { (s.closeImplied.popThroughNamed name).clearFormatting with mode := .inRow }.done
      else s.done
    else if name = "table" || name = "tr" || isRowGroup name then
      if s.inScopeNamed Name.boundsTableScope name then s.closeCell.again .inRow e else s.done
    else if isTablePart name || name = "body" || name = "html" then s.done
    else s.inBody e
  | e => s.inBody e

/-! ## Selects -/

def inSelect (s : Site) (e : Event) : Answer :=
  match e with
  | .null => s.done
  | .space text | .word text => (s.insertText text).done
  | .comment text => (s.insertComment text).done
  | .startTag tag =>
    let name := tag.name
    if name = "html" then s.mergeRoot tag
    else if name = "option" then
      ((if s.currentNamed "option" then s.pop else s).open_ tag).done
    else if name = "optgroup" then
      let s := if s.currentNamed "option" then s.pop else s
      ((if s.currentNamed "optgroup" then s.pop else s).open_ tag).done
    else if name = "select" then
      if s.inScopeNamed Name.boundsSelectScope "select" then
        let s := s.popThroughNamed "select"
        { s with mode := s.fittingMode }.done
      else s.done
    else if name = "input" || name = "keygen" || name = "textarea" then
      if s.inScopeNamed Name.boundsSelectScope "select" then
        let s := s.popThroughNamed "select"
        s.again s.fittingMode e
      else s.done
    else if name = "script" || name = "template" then s.headElement tag
    else s.done
  | .endTag tag =>
    match tag.name with
    | "optgroup" =>
      let inGroup := (s.pop.currentNamed "optgroup") && s.currentNamed "option"
      let s := if inGroup then s.pop else s
      (if s.currentNamed "optgroup" then s.pop else s).done
    | "option" => (if s.currentNamed "option" then s.pop else s).done
    | "select" =>
      if s.inScopeNamed Name.boundsSelectScope "select" then
        let s := s.popThroughNamed "select"
        { s with mode := s.fittingMode }.done
      else s.done
    | "template" => s.closeTemplate
    | _ => s.done
  | .eof => s.inBody e

/-- Tags of a table that end a select in it. -/
def endsSelect (tag : String) : Bool :=
  ["caption", "table", "tbody", "tfoot", "thead", "tr", "td", "th"].contains tag

def inSelectInTable (s : Site) (e : Event) : Answer :=
  let leave : Answer :=
    let s := s.popThroughNamed "select"
    s.again s.fittingMode e
  match e with
  | .startTag tag => if endsSelect tag.name then leave else s.inSelect e
  | .endTag tag =>
    if endsSelect tag.name then
      if s.inScopeNamed Name.boundsTableScope tag.name then leave else s.done
    else s.inSelect e
  | e => s.inSelect e

end Inlay.Markup.Site
