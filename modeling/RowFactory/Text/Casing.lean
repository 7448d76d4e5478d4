import RowFactory.Text.Letter

/-! # Letter case of compound names

A name is cut into words at every character that is neither a letter nor a digit, after a lowercase
letter that an uppercase one follows, and before the last uppercase letter of a run that goes on in
lowercase (`HTTPServer` is `HTTP`, `Server`). The casing styles join these words again.
-/

namespace RowFactory.Text

/-- Case of the last cased letter since the current word began. -/
inductive CaseMode where
  | fresh
  | lower
  | upper
  deriving DecidableEq, Repr

/-- Cuts a run of letters and digits, holding the current word backwards. -/
def cutRun (mode : CaseMode) (word : List Char) : List Char → List (List Char)
  | [] => if word.isEmpty then [] else [word.reverse]
  | [c] => [(c :: word).reverse]
  | c :: next :: rest =>
    let mode' := if isLowercase c then .lower else if isUppercase c then .upper else mode
    if mode' = .lower && isUppercase next then
      (c :: word).reverse :: cutRun .fresh [] (next :: rest)
    else if mode = .upper && isUppercase c && isLowercase next then
      word.reverse :: cutRun .fresh [c] (next :: rest)
    else
      cutRun mode' (c :: word) (next :: rest)

def runs (run : List Char) : List Char → List (List Char)
  | [] => [run.reverse]
  | c :: rest => if isAlphanumeric c then runs (c :: run) rest else run.reverse :: runs [] rest

def words (name : String) : List (List Char) :=
  (runs [] name.toList).flatMap (cutRun .fresh [])

/-- Lowercase letters throughout; a capital sigma at the end takes its final form. -/
def lowercaseWord : List Char → List Char
  | [] => []
  | ['Σ'] => ['ς']
  | c :: rest => lowercase c ++ lowercaseWord rest

def capitalizeWord : List Char → List Char
  | [] => []
  | c :: rest => uppercase c ++ lowercaseWord rest

/-- `blog_post` as `BlogPost`. -/
def pascalCase (name : String) : String :=
  String.ofList ((words name).flatMap capitalizeWord)

/-- `BlogPost` as `blog_post`. -/
def snakeCase (name : String) : String :=
  String.ofList (['_'].intercalate ((words name).map lowercaseWord))

/-- `blog_post` as `blogPost`. -/
def camelCase (name : String) : String :=
  match words name with
  | [] => ""
  | first :: others => String.ofList (lowercaseWord first ++ others.flatMap capitalizeWord)

end RowFactory.Text
