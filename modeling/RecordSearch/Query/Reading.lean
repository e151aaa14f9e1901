import RecordSearch.Query.Building
import RecordSearch.Query.Token

/-!
# From tokens to queries

A group is read token by token. A tilde makes it an or-group, a bracket opens a group inside it or
closes it, a dash excludes what it is attached to, and every other token is a condition. Every list
of tokens can be read: a bracket that is never closed closes at the end, a closing bracket too many
ends the query, and a bracket below the greatest depth is read as a term.

There are two readers. `readGroup` takes the tokens one by one and leaves over those behind the
group; its rules are `readGroup_nil` and `readGroup_cons`, and `parse` reads a query text with it.
`readFrom` goes by indices into the whole list, so that reading can start anywhere, before the first
token too; its rules are `readFrom_of_le`, `readFrom_of_error` and `readFrom_of_token`, and
`parseTokens` reads a group with it and says where the group ends.
-/

namespace RecordSearch

/-- The greatest depth: a bracket inside this many others is read as a term. -/
def maxDepth : Int := 100

/-- What a token means to the group that it stands in. -/
inductive Sign where
  /-- The bracket that closes the group. -/
  | closing
  /-- The tilde that makes it an or-group. -/
  | or
  /-- The bracket that opens a group inside it. -/
  | opening (side : Side)
  /-- A condition. -/
  | leaf (side : Side) (c : Condition)
  deriving DecidableEq, Repr

/-- A token that is no bracket and no tilde is a condition, excluded by a dash in front. -/
def Sign.ofLeaf (token : String) : Sign :=
  match token.toList with
  | '-' :: term => .leaf .excluded (Condition.ofChars term)
  | term => .leaf .included (Condition.ofChars term)

/-- The first sign of the tokens `token :: rest`, and the tokens behind it: a dash and the bracket
after it are one sign. -/
def Sign.ofTokens (token : String) (rest : List String) : Sign × List String :=
  if token = ")" then (.closing, rest)
  else if token = "~" then (.or, rest)
  else if token = "(" then (.opening .included, rest)
  else if token = "-" ∧ rest.head? = some "(" then (.opening .excluded, rest.tail)
  else (.ofLeaf token, rest)

theorem Sign.length_ofTokens_le (token : String) (rest : List String) :
    (Sign.ofTokens token rest).2.length ≤ rest.length := by
  simp only [Sign.ofTokens]
  repeat' split
  all_goals simp

/-- What has been read of a group from some token on. -/
structure Reading where
  /-- The items in the order of their tokens. -/
  group : Group Item := {}
  /-- The tokens left over: none, or those from the closing bracket of the group on. -/
  rest : List String := []
  /-- For each bracket that was read as a term, how many tokens were left from it on. -/
  shallow : List Nat := []

namespace Reading

/-- An item put in front of those that have been read. -/
def addFront (side : Side) (item : Item) (r : Reading) : Reading :=
  match side with
  | .included => { r with group := { r.group with included := item :: r.group.included } }
  | .excluded => { r with group := { r.group with excluded := item :: r.group.excluded } }

/-- A tilde read in front. -/
def useOr (r : Reading) : Reading := { r with group := { r.group with mode := .or } }

/-- A bracket read as a term in front, with `left` tokens from it on. -/
def addBracket (side : Side) (left : Nat) (r : Reading) : Reading :=
  { r.addFront side (.condition ⟨none, "(", .contains⟩) with shallow := left :: r.shallow }

/-- A group read in front. -/
def addGroup (side : Side) (inner r : Reading) : Reading :=
  { r.addFront side (.group inner.group) with shallow := inner.shallow ++ r.shallow }

@[simp] theorem rest_addFront (side : Side) (item : Item) (r : Reading) :
    (r.addFront side item).rest = r.rest := by
  cases side <;> rfl

@[simp] theorem rest_useOr (r : Reading) : r.useOr.rest = r.rest := rfl

@[simp] theorem rest_addBracket (side : Side) (left : Nat) (r : Reading) :
    (r.addBracket side left).rest = r.rest := by
  simp [addBracket]

@[simp] theorem rest_addGroup (side : Side) (inner r : Reading) :
    (addGroup side inner r).rest = r.rest := by
  simp [addGroup]

end Reading

/-- Reads a group inside `depth` others, up to its closing bracket or the end. No token is gained on
the way. -/
def readBounded (depth : Int) :
    (tokens : List String) → { r : Reading // r.rest.length ≤ tokens.length }
  | [] => ⟨{}, Nat.le_refl _⟩
  | token :: rest =>
    match Sign.ofTokens token rest, Sign.length_ofTokens_le token rest with
    | (sign, behind), shorter =>
      have shorter : behind.length ≤ rest.length := shorter
      match sign with
      | .closing => ⟨{ rest := token :: rest }, Nat.le_refl _⟩
      | .or =>
        match readBounded depth behind with
        | ⟨r, bound⟩ => ⟨r.useOr, Nat.le_succ_of_le (Nat.le_trans bound shorter)⟩
      | .opening side =>
        if depth < maxDepth then
          match readBounded (depth + 1) behind with
          | ⟨inner, innerBound⟩ =>
            -- the first token that `inner` leaves over is its closing bracket
            have tailBound : inner.rest.tail.length ≤ behind.length := by
              simp only [List.length_tail]; omega
            match readBounded depth inner.rest.tail with
            | ⟨r, bound⟩ => ⟨.addGroup side inner r, by
                simp only [Reading.rest_addGroup, List.length_cons]; omega⟩
        else
          match readBounded depth behind with
          | ⟨r, bound⟩ => ⟨r.addBracket side (behind.length + 1), by
              simp only [Reading.rest_addBracket, List.length_cons]; omega⟩
      | .leaf side c =>
        match readBounded depth behind with
        | ⟨r, bound⟩ => ⟨r.addFront side (.condition c), by
            simp only [Reading.rest_addFront, List.length_cons]; omega⟩
termination_by tokens => tokens.length
decreasing_by all_goals (simp only [List.length_cons]; omega)

/-- Reads a group inside `depth` others, up to its closing bracket or the end. -/
def readGroup (depth : Int) (tokens : List String) : Reading := (readBounded depth tokens).1

@[simp] theorem readGroup_nil (depth : Int) : readGroup depth [] = {} := by
  simp [readGroup, readBounded]

/-- The rules of reading. -/
theorem readGroup_cons (depth : Int) (token : String) (rest : List String) :
    readGroup depth (token :: rest) =
      let behind := (Sign.ofTokens token rest).2
      match (Sign.ofTokens token rest).1 with
      | .closing => { rest := token :: rest }
      | .or => (readGroup depth behind).useOr
      | .opening side =>
        if depth < maxDepth then
          let inner := readGroup (depth + 1) behind
          .addGroup side inner (readGroup depth inner.rest.tail)
        else (readGroup depth behind).addBracket side (behind.length + 1)
      | .leaf side c => (readGroup depth behind).addFront side (.condition c) := by
  rw [readGroup, readBounded]
  generalize Sign.length_ofTokens_le token rest = bound
  revert bound
  generalize Sign.ofTokens token rest = p
  intro bound
  obtain ⟨sign, behind⟩ := p
  cases sign with
  | opening side => by_cases h : depth < maxDepth <;> simp [h, readGroup]
  | closing => rfl
  | or => rfl
  | leaf side c => rfl

theorem length_rest_readGroup_le (depth : Int) (tokens : List String) :
    (readGroup depth tokens).rest.length ≤ tokens.length :=
  (readBounded depth tokens).2

/-! ### Reading from an index on -/

/-- Why there is no token at an index. -/
inductive IndexFault where
  /-- The index is before the first token. -/
  | outOfRange
  /-- The index does not fit into 64 bits. -/
  | tooLarge
  deriving DecidableEq, Repr

/-- Why there is no token at an index, in words. -/
def IndexFault.message : IndexFault → String
  | .outOfRange => "list index out of range"
  | .tooLarge => "cannot fit 'int' into an index-sized integer"

/-- The token at an index. A negative index counts from the end. -/
def tokenAt? (tokens : List String) (index : Int) : Option String :=
  if 0 ≤ index then tokens[index.toNat]?
  else if -index ≤ tokens.length then tokens[tokens.length - (-index).toNat]?
  else none

/-- The token at an index, or why there is none. -/
def tokenAt (tokens : List String) (index : Int) : Except IndexFault String :=
  match tokenAt? tokens index with
  | some token => .ok token
  | none => .error (if index < -(Nat.pow 2 63 : Int) then .tooLarge else .outOfRange)

/-- The token behind an index, if the tokens do not end there. -/
def tokenBehind (tokens : List String) (index : Int) : List String :=
  if index + 1 < tokens.length then (tokenAt? tokens (index + 1)).toList else []

/-- The sign of the token at an index, and the index behind the tokens of that sign. -/
def Sign.ofIndex (tokens : List String) (index : Int) (token : String) :
    Sign × { later : Int // index < later } :=
  let next := tokenBehind tokens index
  let (sign, behind) := Sign.ofTokens token next
  (sign, ⟨index + (1 + (next.length - behind.length) : Nat), by omega⟩)

/-- Reads on at an index, inside `depth` other groups, with what has been read of the group so far.
Reading ends at that index or behind it. -/
def readBoundedFrom (tokens : List String) (depth index : Int) (g : Query) :
    Except IndexFault { r : Query × Int // min index tokens.length ≤ r.2 } :=
  if inside : index < tokens.length then do
    let token ← tokenAt tokens index
    match Sign.ofIndex tokens index token with
    | (sign, ⟨later, further⟩) =>
      match sign with
      | .closing => return ⟨(g, index), Int.min_le_left _ _⟩
      | .or =>
        let ⟨r, bound⟩ ← readBoundedFrom tokens depth later { g with mode := .or }
        return ⟨r, by omega⟩
      | .opening side =>
        if depth < maxDepth then
          let ⟨inner, innerBound⟩ ← readBoundedFrom tokens (depth + 1) later {}
          -- the index where `inner` ends is that of its closing bracket
          let ⟨r, bound⟩ ← readBoundedFrom tokens depth (inner.2 + 1) (g.add (.group inner.1) side)
          return ⟨r, by omega⟩
        else
          let ⟨r, bound⟩ ← readBoundedFrom tokens depth later
            (g.add (.condition ⟨none, "(", .contains⟩) side)
          return ⟨r, by omega⟩
      | .leaf side c =>
        let ⟨r, bound⟩ ← readBoundedFrom tokens depth later (g.add (.condition c) side)
        return ⟨r, by omega⟩
  else return ⟨(g, tokens.length), Int.min_le_right _ _⟩
termination_by (tokens.length - index).toNat
decreasing_by all_goals omega

/-- Reads on at an index, inside `depth` other groups, with what has been read of the group so far.
Gives the group and the index of its closing bracket, or the number of tokens if it has none. -/
def readFrom (tokens : List String) (depth index : Int) (g : Query) :
    Except IndexFault (Query × Int) :=
  (readBoundedFrom tokens depth index g).map Subtype.val

section Indices

variable {tokens : List String} {depth index : Int} {g : Query}

theorem readFrom_of_le (h : tokens.length ≤ index) :
    readFrom tokens depth index g = .ok (g, tokens.length) := by
  rw [readFrom, readBoundedFrom, dif_neg (Int.not_lt.2 h)]
  rfl

theorem readFrom_of_error {fault : IndexFault} (h : index < tokens.length)
    (hfault : tokenAt tokens index = .error fault) :
    readFrom tokens depth index g = .error fault := by
  rw [readFrom, readBoundedFrom, dif_pos h, hfault]
  rfl

/-- Forgetting more of what is known of a value does not change the value. -/
private theorem map_val_weaken {ε α : Type} {p q : α → Prop} (h : ∀ a, p a → q a)
    (x : Except ε { a // p a }) :
    (x.bind fun a => .ok (⟨a.1, h a.1 a.2⟩ : { a // q a })).map Subtype.val =
      x.map Subtype.val := by
  cases x <;> rfl

/-- The rules of reading, by indices. -/
theorem readFrom_of_token {token : String} (h : index < tokens.length)
    (htoken : tokenAt tokens index = .ok token) :
    readFrom tokens depth index g =
      let later := (Sign.ofIndex tokens index token).2.1
      match (Sign.ofIndex tokens index token).1 with
      | .closing => .ok (g, index)
      | .or => readFrom tokens depth later { g with mode := .or }
      | .opening side =>
        if depth < maxDepth then
          (readFrom tokens (depth + 1) later {}).bind fun inner =>
            readFrom tokens depth (inner.2 + 1) (g.add (.group inner.1) side)
        else readFrom tokens depth later (g.add (.condition ⟨none, "(", .contains⟩) side)
      | .leaf side c => readFrom tokens depth later (g.add (.condition c) side) := by
  rw [readFrom, readBoundedFrom, dif_pos h, htoken]
  simp only [bind, Except.bind, pure, Except.pure]
  generalize Sign.ofIndex tokens index token = p
  obtain ⟨sign, later, further⟩ := p
  have hbound : ∀ r : Query × Int, min later tokens.length ≤ r.2 →
      min index tokens.length ≤ r.2 := by omega
  cases sign with
  | closing => rfl
  | or => exact map_val_weaken hbound _
  | opening side =>
    by_cases hd : depth < maxDepth
    · simp only [hd, if_true, readFrom]
      cases readBoundedFrom tokens (depth + 1) later {} with
      | error fault => rfl
      | ok inner =>
        have hinner : ∀ r : Query × Int, min (inner.1.2 + 1) tokens.length ≤ r.2 →
            min index tokens.length ≤ r.2 := by omega
        exact map_val_weaken hinner _
    · simp only [hd, if_false]
      exact map_val_weaken hbound _
  | leaf side c => exact map_val_weaken hbound _

end Indices

/-- Reads a group from index `start` on, inside `depth` others, and gives the index of its closing
bracket, or the number of tokens if it has none. A negative index counts from the end; reading then
goes on from there through all the tokens. -/
def parseTokens (tokens : List String) (start : Int := 0) (depth : Int := 0) :
    Except IndexFault (Query × Int) :=
  readFrom tokens depth start {}

/-- The query that a text spells. -/
def parse (query : String) : Query := (readGroup 0 (tokenize query)).group

end RecordSearch
