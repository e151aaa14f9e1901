import RecordSearch.Query.Matching
import RecordSearch.Query.Reading
import RecordSearch.Sharing.Store

/-!
# Building sessions

A session builds one query step by step. Steps give names to items, add and take away items, on the
query or on a group by its name, and ask questions. A rejected step answers why, and the session
goes on with whatever the step has done by then.
-/

namespace RecordSearch

/-- How a step describes an item. -/
inductive ItemSpec where
  | filter (field : Option String) (term : String) (operator : Json)
  | token (raw : String)
  /-- The root group of a query text. -/
  | query (text : String)
  /-- What has been given a name. -/
  | named (name : String)
  /-- A new group. -/
  | group (mode : Json) (included excluded : List ItemSpec)
  /-- A value that is no item. -/
  | raw (v : Json)

/-- What a step does; `on` is the name of a group to act on, in place of the query. -/
inductive Step where
  | letName (name : String) (item : ItemSpec)
  | change (item : ItemSpec) (side : Side) (on : Option String) (change : Change)
  | lookFor (item : ItemSpec) (side : Side) (nested : Bool) (on : Option String)
  | isEmpty (on : Option String)
  | hasQuery
  | «matches» (records : List Record) (on : Option String)
  | equal (a b : ItemSpec)
  | distinct (items : List ItemSpec)
  | text (on : Option String)
  | literal (on : Option String)
  /-- Replaces the query by what its text is read as. -/
  | reparse

/-- What a step answers. -/
inductive Answer where
  | nothing
  | truth (b : Bool)
  | truths (bs : List Bool)
  | count (n : Nat)
  | text (s : String)
  deriving DecidableEq, Repr

/-- The state of a session: the groups, the root group of the query, and the names. -/
structure Session where
  store : Store
  root : Nat
  names : List (String × Given Handle) := []

/-- A query quoted in a message. -/
def Group.queryLiteral (g : Group Item) : String := "SearchQuery(" ++ Text.quoted g.text ++ ")"

/-- A group quoted in a message. -/
def Group.literal (g : Group Item) : String :=
  groupKind ++ "(" ++ Text.quoted g.text ++ ", mode=" ++ g.mode.name ++ ")"

/-- A condition quoted in a message. -/
def Condition.literal (c : Condition) : String := "Filter(" ++ Text.quoted c.text ++ ")"

namespace Session

/-- A session with the query of a text, or an empty one. -/
def start (query : Option String) : Session :=
  let (store, root) := Store.insertGroup {} ((query.map parse).getD {})
  { store, root }

/-- The query as a tree. -/
def query (s : Session) : Query := s.store.group s.root

/-- What a name stands for: `root` is the root group of the query, and an unknown name is an empty
group. -/
def lookup (s : Session) (name : String) : Given Handle :=
  if name = "root" then .item (.group s.root)
  else ((s.names.find? fun n => n.1 == name).map (·.2)).getD (.item (.group s.store.next))

/-- The number of the group that a step acts on. -/
def target (s : Session) : Option String → Nat
  | none => s.root
  | some name =>
    match s.lookup name with
    | .item (.group number) => number
    | _ => s.store.next

mutual

/-- Makes the item that a step describes, with new groups put into the store. -/
def make (s : Session) : ItemSpec → Session × Except Rejection (Given Handle)
  | .filter field term operator =>
    (s, (Operator.ofJson operator).map fun op => .item (.condition ⟨field, term, op⟩))
  | .token raw => (s, .ok (.item (.condition (Condition.ofToken raw))))
  | .query text =>
    let (store, number) := s.store.insertGroup (parse text)
    ({ s with store }, .ok (.item (.group number)))
  | .named name => (s, .ok (s.lookup name))
  | .group mode included excluded =>
    match Mode.ofJson mode with
    | .error rejection => (s, .error rejection)
    | .ok mode =>
      match s.makeItems included with
      | (s, .error rejection) => (s, .error rejection)
      | (s, .ok included) =>
        match s.makeItems excluded with
        | (s, .error rejection) => (s, .error rejection)
        | (s, .ok excluded) =>
          ({ s with store := s.store.push ⟨mode, included, excluded⟩ },
            .ok (.item (.group s.store.next)))
  | .raw v => (s, .ok (.value v))

/-- Makes the items of one side of a new group, in order. -/
def makeItems (s : Session) : List ItemSpec → Session × Except Rejection (List Handle)
  | [] => (s, .ok [])
  | spec :: specs =>
    match s.make spec with
    | (s, .error rejection) => (s, .error rejection)
    | (s, .ok (.value v)) => (s, .error (.notAnItem v.kind))
    | (s, .ok (.item handle)) =>
      match s.makeItems specs with
      | (s, .error rejection) => (s, .error rejection)
      | (s, .ok handles) => (s, .ok (handle :: handles))

end

/-- Makes each of the things that a step describes, items or not. -/
def makeAll (s : Session) : List ItemSpec → Session × Except Rejection (List (Given Handle))
  | [] => (s, .ok [])
  | spec :: specs =>
    match s.make spec with
    | (s, .error rejection) => (s, .error rejection)
    | (s, .ok given) =>
      match s.makeAll specs with
      | (s, .error rejection) => (s, .error rejection)
      | (s, .ok rest) => (s, .ok (given :: rest))

/-- What was handed in, with its groups read back as trees. -/
def view (s : Session) : Given Handle → Given Item
  | .item handle => .item (s.store.item handle)
  | .value v => .value v

/-- Whether two things are equal; a value is never equal to an item. -/
def same : Given Item → Given Item → Bool
  | .item x, .item y => decide (x = y)
  | .value v, .value w => v.equals w
  | _, _ => false

/-- What keeps a thing from being counted: a group cannot be counted, nor can a list or an
object. -/
def uncountable? : Given Item → Option Rejection
  | .item (.group _) => some (.notCountable groupKind)
  | .value (.list _) => some (.notCountable (Json.list []).kind)
  | .value (.object _) => some (.notCountable (Json.object []).kind)
  | _ => none

/-- How many of the things that a step describes are different from each other and from those that
have been seen. Each is counted before the next one is made. -/
def countDistinct (s : Session) (seen : List (Given Item)) :
    List ItemSpec → Session × Except Rejection Nat
  | [] => (s, .ok seen.length)
  | spec :: specs =>
    match s.make spec with
    | (s, .error rejection) => (s, .error rejection)
    | (s, .ok given) =>
      let x := s.view given
      match uncountable? x with
      | some rejection => (s, .error rejection)
      | none => s.countDistinct (if seen.any (same x) then seen else x :: seen) specs

/-- The answer of a step that only asks, or why it is rejected. -/
def ask {α : Type} (outcome : Session × Except Rejection α)
    (answer : Session → α → Except Rejection Answer) : Session × Except Rejection Answer :=
  match outcome with
  | (s, .error rejection) => (s, .error rejection)
  | (s, .ok x) => (s, answer s x)

/-- Takes one step. -/
def step (s : Session) : Step → Session × Except Rejection Answer
  | .letName name spec =>
    match s.make spec with
    | (s, .error rejection) => (s, .error rejection)
    | (s, .ok given) => ({ s with names := (name, given) :: s.names }, .ok .nothing)
  | .change spec side on change =>
    match s.make spec with
    | (s, .error rejection) => (s, .error rejection)
    | (s, .ok given) =>
      let (store, outcome) := s.store.change (s.target on) given side change
      ({ s with store }, outcome.map fun _ => .nothing)
  | .lookFor spec side nested on =>
    ask (s.make spec) fun s given =>
      ((s.store.group (s.target on)).lookFor (s.view given) side nested).map .truth
  | .isEmpty on => (s, .ok (.truth (s.store.group (s.target on)).isEmpty))
  | .hasQuery => (s, .ok (.truth !s.query.isEmpty))
  | .matches records on =>
    let g := s.store.group (s.target on)
    (s, .ok (.truths (records.map fun r => Group.matches r g)))
  | .equal a b =>
    ask (s.makeAll [a, b]) fun s made =>
      match made.map s.view with
      | [x, y] => .ok (.truth (same x y))
      | _ => .ok (.truth false)
  | .distinct specs => ask (s.countDistinct [] specs) fun _ n => .ok (.count n)
  | .text on => (s, .ok (.text (s.store.group (s.target on)).text))
  | .literal on =>
    let g := s.store.group (s.target on)
    (s, .ok (.text (if on.isNone then g.queryLiteral else g.literal)))
  | .reparse =>
    let old := s.query
    let new := parse old.text
    let (store, root) := s.store.insertGroup new
    ({ s with store, root }, .ok (.truth (decide (new = old))))

end Session

end RecordSearch
