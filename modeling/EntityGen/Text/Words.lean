import EntityGen.Text.Alphanumeric
import EntityGen.Text.Case

/-!
The words of a name. Whatever is not alphanumeric separates words, and inside a run of alphanumeric
characters a word ends where a lowercase letter is followed by an uppercase one (`camelCase`) and
before the last of several uppercase letters that a lowercase one follows (`XMLHttp`). Characters
without case keep the case of what stands before them. `flatten_humps` says that cutting a run loses
nothing. -/
namespace EntityGen.Text

/-- The case of the current word so far. -/
inductive Hump where
  | start
  | lower
  | upper
  deriving DecidableEq, Repr

/-- The case of a word after one more character. -/
def Hump.after (hump : Hump) (c : Char) : Hump :=
  if isLower c then .lower else if isUpper c then .upper else hump

/-- The words of a run of alphanumeric characters. `word` is the word under way, last character
first, and `hump` its case. -/
def humps (hump : Hump) (word : List Char) : List Char → List (List Char)
  | [] => []
  | [c] => [(c :: word).reverse]
  | c :: next :: rest =>
    if hump.after c = .lower ∧ isUpper next then
      (c :: word).reverse :: humps .start [] (next :: rest)
    else if hump = .upper ∧ isUpper c ∧ isLower next then
      word.reverse :: humps .start [c] (next :: rest)
    else humps (hump.after c) (c :: word) (next :: rest)

/-- The runs of alphanumeric characters of a text; `run` is the one under way, last character
first. -/
def runsOf (run : List Char) : List Char → List (List Char)
  | [] => [run.reverse]
  | c :: rest =>
    if isAlphanumeric c then runsOf (c :: run) rest
    else run.reverse :: runsOf [] rest

/-- The words of a name, in order. -/
def words (name : List Char) : List (List Char) :=
  (runsOf [] name).flatMap (humps .start [])

/-- The words of a run, one after the other, are the run. -/
theorem flatten_humps (hump : Hump) (word : List Char) (c : Char) (rest : List Char) :
    (humps hump word (c :: rest)).flatten = word.reverse ++ c :: rest := by
  induction rest generalizing hump word c with
  | nil => simp [humps]
  | cons next rest ih =>
    rw [humps]
    split
    · simp [ih]
    · split <;> simp [ih]

/-- The runs of a text hold its alphanumeric characters in order. -/
theorem flatten_runsOf (run s : List Char) :
    (runsOf run s).flatten = run.reverse ++ s.filter isAlphanumeric := by
  induction s generalizing run with
  | nil => simp [runsOf]
  | cons c rest ih =>
    rw [runsOf]
    split
    · next h => simp [ih, h]
    · next h => simp [ih, h]

/-- The words of a name hold its alphanumeric characters, each once and in order. -/
theorem flatten_words (name : List Char) : (words name).flatten = name.filter isAlphanumeric := by
  have key : ∀ runs : List (List Char),
      (runs.flatMap (humps .start [])).flatten = runs.flatten := by
    intro runs
    induction runs with
    | nil => rfl
    | cons run rest ih =>
      cases run with
      | nil => simpa [humps] using ih
      | cons c run =>
        have h := flatten_humps .start [] c run
        simp only [List.reverse_nil, List.nil_append] at h
        simp [h, ih]
  rw [words, key, flatten_runsOf]
  simp

end EntityGen.Text
