import RecordSearch.Json.Printer
import RecordSearch.Report.DisplayFault

/-!
# Outlines

An outline is a tree of labels. It is drawn with one label on each line, and with guides from each
label to those below it.
-/

namespace RecordSearch

/-- A label with the outlines below it. -/
inductive Outline where
  | node (label : String) (children : List Outline)

namespace Outline

/-- Lines hung below a label: the first one behind one guide, the others behind another. -/
def hang (first others : String) : List String → List String
  | [] => []
  | line :: lines => (first ++ line) :: lines.map (others ++ ·)

mutual

/-- The lines of a drawn outline. -/
def lines : Outline → List String
  | .node label children => label :: branches children

/-- The lines of the outlines below a label. -/
def branches : List Outline → List String
  | [] => []
  | [last] => hang "└── " "    " last.lines
  | child :: next :: rest => hang "├── " "│   " child.lines ++ branches (next :: rest)

end

end Outline

/-- The label of a node of a described query. -/
def nodeLabel (excluded : Bool) (node : Json) : String :=
  let mark := if excluded then "NOT " else ""
  if node.get? "type" matches some (.text "group") then
    mark ++ ((node.get? "mode").getD (.text "AND")).plain
  else
    let field := (node.get? "field").getD .null
    let place := if field.isSomething then field.plain else "any field"
    let verb := if node.get? "operator" matches some (.text "EXACT") then "equals" else "contains"
    mark ++ place ++ " " ++ verb ++ " " ++ ((node.get? "term").getD (.text "")).literal

/-- The nodes of a value that is no list: it has none, or they cannot be drawn. -/
def Json.strayOutlines (v : Json) : Except DisplayFault (List Outline) :=
  match v.parts with
  | .error fault => .error fault
  | .ok [] => .ok []
  | .ok (part :: _) => .error (.noMembers part.kind)

mutual

/-- The outline of a described query: what a node includes stands before what it excludes. -/
def Json.outline (excluded : Bool) : Json → Except DisplayFault Outline
  | .object members =>
    match Json.childrenIn "include" false members with
    | .error fault => .error fault
    | .ok included =>
      match Json.childrenIn "exclude" true members with
      | .error fault => .error fault
      | .ok others => .ok (.node (nodeLabel excluded (.object members)) (included ++ others))
  | v => .error (.noMembers v.kind)

/-- The outlines of the nodes in the list that has a name among members. -/
def Json.childrenIn (name : String) (excluded : Bool) :
    List (String × Json) → Except DisplayFault (List Outline)
  | [] => .ok []
  | (key, v) :: rest =>
    if key = name then v.elementOutlines excluded else Json.childrenIn name excluded rest

/-- The outlines of the elements of a list. -/
def Json.elementOutlines (excluded : Bool) : Json → Except DisplayFault (List Outline)
  | .list elements => Json.listOutlines excluded elements
  | v => v.strayOutlines

/-- The outlines of several nodes. -/
def Json.listOutlines (excluded : Bool) : List Json → Except DisplayFault (List Outline)
  | [] => .ok []
  | v :: rest =>
    match v.outline excluded with
    | .error fault => .error fault
    | .ok o => (Json.listOutlines excluded rest).map (o :: ·)

end

end RecordSearch
