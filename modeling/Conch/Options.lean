/-! Options of a builtin read in the manner of `getopt_long`: the scanner classifies each step as a
flag, an option missing its value or an unknown option, and sets positional words aside. -/
namespace Conch.Options

/-- A long option: its name, whether it takes a value, and the short option it stands for. -/
structure LongOption where
  name : String
  takesValue : Bool
  short : String
  deriving Repr, DecidableEq

/-- What a step found: a known option with its value, a known option missing its value at the end,
or an unknown option. -/
inductive StepKind where
  | flag
  | missingArgument
  | unknown
  deriving Repr, DecidableEq

/-- One step of a scan: what it found, the option (as its short name), the word it came from,
that word's position and the option's value. -/
structure Step where
  kind : StepKind
  option : Option String
  token : String
  index : Nat
  value : Option String := none
  deriving Repr, DecidableEq

/-- The short options of a spec, each with whether it takes a value, the later of two entries
for one letter first. `+` and `:` are no options. -/
def shortOptions : List Char → List (Char × Bool) → List (Char × Bool)
  | [], acc => acc
  | c :: cs, acc =>
    if c = ':' ∨ c = '+' then shortOptions cs acc
    else shortOptions cs ((c, cs.head? = some ':') :: acc)

/-- The state of a scan. The words not yet looked at are kept with their positions. -/
structure Scanner where
  shorts : List (Char × Bool)
  inOrder : Bool
  longs : List LongOption
  args : List String
  pending : List (Nat × String)
  setAside : List (Nat × String) := []
  /-- The letters left of a word of short options. -/
  cluster : List Char := []
  clusterWord : String := ""
  clusterIndex : Nat := 0

namespace Scanner

def init (spec : String) (longs : List LongOption) (args : List String) : Scanner where
  shorts := shortOptions spec.toList []
  inOrder := spec.toList.head? = some '+'
  longs := longs
  args := args
  pending := List.zipIdx args |>.map fun (w, i) => (i, w)

def index (s : Scanner) : Nat :=
  match s.pending with
  | (i, _) :: _ => i
  | [] => s.args.length

def positionals (s : Scanner) : List String :=
  (s.setAside.mergeSort fun a b => a.1 ≤ b.1).map (·.2)

def setAsideRest (s : Scanner) : Scanner :=
  { s with setAside := s.setAside ++ s.pending, pending := [] }

/-- Ends the scan at a step: its word and every word after it become positional. -/
def stopAt (s : Scanner) (st : Step) : Scanner :=
  { s with
    cluster := []
    setAside := s.setAside ++ (st.index, st.token) ::
      ((List.zipIdx s.args).map (fun (w, i) => (i, w))).drop (st.index + 1)
    pending := [] }

/-- The long option a name selects: the one of that name, else the only one it is a prefix
of. -/
def matchLong (longs : List LongOption) (name : String) : Option LongOption :=
  if name.isEmpty then none
  else match longs.find? (·.name = name) with
    | some o => some o
    | none =>
      match longs.filter (fun o => name.isPrefixOf o.name) with
      | [o] => some o
      | _ => none

def nextShort (s : Scanner) (c : Char) (rest : List Char) : Step × Scanner :=
  let tok := s.clusterWord
  let pos := s.clusterIndex
  let opt := some (String.ofList [c])
  match s.shorts.lookup c with
  | none => (⟨.unknown, none, tok, pos, none⟩, { s with cluster := [] })
  | some false => (⟨.flag, opt, tok, pos, none⟩, { s with cluster := rest })
  | some true =>
    if !rest.isEmpty then (⟨.flag, opt, tok, pos, some (String.ofList rest)⟩, { s with cluster := [] })
    else match s.pending with
      | (_, v) :: more => (⟨.flag, opt, tok, pos, some v⟩, { s with cluster := [], pending := more })
      | [] => (⟨.missingArgument, opt, tok, pos, none⟩, { s with cluster := [] })

def nextLong (s : Scanner) (pos : Nat) (w : String) : Step × Scanner :=
  let body := w.toList.drop 2
  let name := String.ofList (body.takeWhile (· ≠ '='))
  let inline := match body.dropWhile (· ≠ '=') with
    | _ :: v => some (String.ofList v)
    | [] => none
  match matchLong s.longs name with
  | none => (⟨.unknown, none, w, pos, none⟩, s)
  | some o =>
    if !o.takesValue then
      if inline.isSome then (⟨.unknown, none, w, pos, none⟩, s)
      else (⟨.flag, some o.short, w, pos, none⟩, s)
    else match inline with
      | some v => (⟨.flag, some o.short, w, pos, some v⟩, s)
      | none =>
        match s.pending with
        | (_, v) :: more => (⟨.flag, some o.short, w, pos, some v⟩, { s with pending := more })
        | [] => (⟨.missingArgument, some o.short, w, pos, none⟩, s)

/-- Looks at pending words, setting positional ones aside, until one holds options; `none`
when the options have ended. -/
def advance (s : Scanner) : List (Nat × String) → Option Step × Scanner
  | [] => (none, { s with pending := [] })
  | (pos, w) :: more =>
    if w = "--" then (none, { s with pending := more }.setAsideRest)
    else if !w.startsWith "-" ∨ w = "-" then
      if s.inOrder then (none, { s with pending := (pos, w) :: more }.setAsideRest)
      else advance { s with setAside := s.setAside ++ [(pos, w)] } more
    else if w.startsWith "--" then
      let (st, s') := nextLong { s with pending := more } pos w
      (some st, s')
    else match w.toList with
      | _ :: c :: rest =>
        let (st, s') := nextShort { s with pending := more, clusterWord := w, clusterIndex := pos } c rest
        (some st, s')
      | _ => (none, { s with pending := more })

def next (s : Scanner) : Option Step × Scanner :=
  match s.cluster with
  | c :: rest => (some (s.nextShort c rest).1, (s.nextShort c rest).2)
  | [] => s.advance s.pending

def weight (s : Scanner) : Nat :=
  s.cluster.length + s.pending.foldr (fun p n => p.2.length + 1 + n) 0

end Scanner

/-- What a scan does after an unknown option: goes on, makes it and every later word positional and
ends, or ends. -/
inductive OnUnknown where
  | proceed
  | stopAt
  | halt
  deriving Repr, DecidableEq

/-- Runs a scanner to its end, or until the policy for an unknown option, or `haltOnMissing`
for an option without its value, ends it. -/
def Scanner.run (onUnknown : OnUnknown) (haltOnMissing : Bool) (s : Scanner) (fuel : Nat) :
    List Step × Scanner :=
  match fuel with
  | 0 => ([], s)
  | fuel + 1 =>
    match s.next with
    | (none, s') => ([], s')
    | (some st, s') =>
      match st.kind with
      | .unknown =>
        match onUnknown with
        | .proceed =>
          let (sts, s'') := Scanner.run onUnknown haltOnMissing s' fuel
          (st :: sts, s'')
        | .stopAt => ([st], s'.stopAt st)
        | .halt => ([st], s')
      | .missingArgument =>
        if haltOnMissing then ([st], s')
        else
          let (sts, s'') := Scanner.run onUnknown haltOnMissing s' fuel
          (st :: sts, s'')
      | .flag =>
        let (sts, s'') := Scanner.run onUnknown haltOnMissing s' fuel
        (st :: sts, s'')

def scan (spec : String) (longs : List LongOption) (args : List String) (onUnknown : OnUnknown)
    (haltOnMissing : Bool) : List Step × Scanner :=
  let s := Scanner.init spec longs args
  Scanner.run onUnknown haltOnMissing s (s.weight + 1)

end Conch.Options
