namespace ArtifactResolution.Text
set_option autoImplicit false

/-- Takes a value from the beginning of a text and leaves the rest. A reader that fails takes nothing,
so that another can be tried in its place. -/
abbrev Reader := StateT (List Char) Option

namespace Reader
variable {α : Type}

/-- Takes the next character if it is one of a class. -/
def satisfy (p : Char → Bool) : Reader Char
  | c :: cs => if p c then some (c, cs) else none
  | [] => none

def char (c : Char) : Reader Unit := (fun _ => ()) <$> satisfy (· = c)

def chars : List Char → Reader Unit
  | [] => pure ()
  | c :: cs => do
    char c
    chars cs

def takeWhile (p : Char → Bool) : Reader (List Char) := fun cs => some (cs.span p)

/-- Takes one character of a class or more. -/
def takeSome (p : Char → Bool) : Reader (List Char) := do
  let c ← satisfy p
  let cs ← takeWhile p
  return c :: cs

def done : Reader Unit
  | [] => some ((), [])
  | _ :: _ => none

/-- Takes items up to a closing mark; the separator may also stand before that mark. -/
def collected (item : Reader α) (separator close : Reader Unit) : Reader (List α) :=
  fun cs => go cs.length cs
where
  go : Nat → Reader (List α)
    | 0 => (fun _ => []) <$> close
    | n + 1 => (fun _ => []) <$> close <|> do
      let a ← item
      (do separator; return a :: (← go n)) <|> (fun _ => [a]) <$> close

/-- Takes items up to a closing mark. -/
def upTo (close : Reader Unit) (item : Reader α) : Reader (List α) := fun cs => go cs.length cs
where
  go : Nat → Reader (List α)
    | 0 => (fun _ => []) <$> close
    | n + 1 => (fun _ => []) <$> close <|> do
      let a ← item
      return a :: (← go n)

/-- Takes items as long as there are some. -/
def many (item : Reader α) : Reader (List α) :=
  (do
    let a ← item
    let as ← fun cs => go cs.length cs
    return a :: as) <|> pure []
where
  go : Nat → Reader (List α)
    | 0 => pure []
    | n + 1 => (do let a ← item; return a :: (← go n)) <|> pure []

/-- Takes items with a separator between them, at least one. -/
def separated (item : Reader α) (separator : Reader Unit) : Reader (List α) := do
  let a ← item
  let as ← many do
    separator
    item
  return a :: as

/-- What a whole text stands for. -/
def whole? (r : Reader α) (cs : List Char) : Option α :=
  ((do let a ← r; done; return a : Reader α) cs).map (·.1)

end Reader

end ArtifactResolution.Text
