import AsmPair.Files.Disk
import AsmPair.Files.Name

/-!
# Volumes

A volume is a tree of files as a value: what lies at each location.  Locations are counted from
the working directory; two dots lead above it, and a slash leads to the root.  The directories
above the working directory exist, but nothing is known of what else they hold.

## Main definitions

* `Node`, `Location`, `Volume` — files and directories, and where they lie.
* `Volume.resolve` — the location that a path leads to.
* `Volume.read`, `Volume.names`, `Volume.makeFolder`, `Volume.write` — what a disk does.
* `Volume.disk` — the disk whose state is a volume.
-/

namespace AsmPair

/-- What lies at a location. -/
inductive Node where
  /-- A file that holds a text. -/
  | text (content : String) : Node
  /-- A file that holds no text. -/
  | binary : Node
  /-- A directory. -/
  | folder : Node
  deriving DecidableEq, Repr

/-- The names that lead to a place from the working directory.  In front of them there may be
two dots, once for each step above the working directory, or a slash for the root. -/
abbrev Location := List String

namespace Location

/-- Whether a location is the root. -/
def isRoot (l : Location) : Bool := l == ["/"]

/-- Whether a location is the working directory or a directory above it. -/
def isBase (l : Location) : Bool := l.isRoot || l.all (· == "..")

/-- The directory that holds a location.  The root holds itself. -/
def parent (l : Location) : Location :=
  if l.isRoot then l else if l.isBase then l ++ [".."] else l.dropLast

end Location

/-- A tree of files. -/
structure Volume where
  /-- What lies where.  The working directory and those above it are not mentioned. -/
  nodes : List (Location × Node)
  deriving DecidableEq, Repr

namespace Volume

/-! ### Looking up -/

/-- What lies at a location. -/
def node? (v : Volume) (l : Location) : Option Node :=
  if l.isBase then some .folder else v.nodes.lookup l

/-- The greatest number of bytes of a name in a directory. -/
def nameLimit : Nat := 255

/-- The greatest number of bytes of a path. -/
def pathLimit : Nat := 4095

/-- Whether the path made of pieces has too many bytes.  Between two pieces there is a slash. -/
def isOverlong (pieces : List String) : Bool :=
  pathLimit < ("/".intercalate pieces).utf8ByteSize

/-- Where one more piece of a path leads. -/
def follow (v : Volume) (l : Location) (piece : String) : Except FileFailure Location :=
  match v.node? l with
  | none => .error .notFound
  | some .folder =>
    if Files.isIdle piece then .ok l
    else if piece == ".." then .ok l.parent
    else if nameLimit < piece.utf8ByteSize then .error .nameTooLong
    else .ok (l ++ [piece])
  | some _ => .error .notADirectory

/-- Where pieces of a path lead, one after the other. -/
def followAll (v : Volume) : Location → List String → Except FileFailure Location
  | l, [] => .ok l
  | l, piece :: pieces =>
    match v.follow l piece with
    | .ok next => v.followAll next pieces
    | .error e => .error e

@[simp] theorem followAll_nil (v : Volume) (l : Location) : v.followAll l [] = .ok l := rfl

@[simp] theorem followAll_cons_eq_ok_iff {v : Volume} {l m : Location} {piece : String}
    {pieces : List String} : v.followAll l (piece :: pieces) = .ok m ↔
      ∃ next, v.follow l piece = .ok next ∧ v.followAll next pieces = .ok m := by
  rw [followAll]
  cases v.follow l piece <;> simp

/-- Where a path starts, and the pieces that follow.  A slash at its start leads to the root. -/
def start : List String → Location × List String
  | "" :: piece :: pieces => (["/"], piece :: pieces)
  | pieces => ([], pieces)

/-- Where a path leads. -/
def resolve (v : Volume) (pieces : List String) : Except FileFailure Location :=
  if isOverlong pieces then .error .nameTooLong
  else v.followAll (start pieces).1 (start pieces).2

/-- What a path leads to. -/
def lookup (v : Volume) (pieces : List String) : Except FileFailure Node :=
  match v.resolve pieces with
  | .error e => .error e
  | .ok l =>
    match v.node? l with
    | some n => .ok n
    | none => .error .notFound

/-- Whether a path leads to something. -/
def holds (v : Volume) (path : String) : Bool := (v.lookup (Files.pathPieces path)).isOk

/-- The text of a file. -/
def read (v : Volume) (path : String) : Except FileFailure String :=
  match v.lookup (Files.pathPieces path) with
  | .ok (.text s) => .ok s
  | .ok .binary => .error .notText
  | .ok .folder => .error .isADirectory
  | .error e => .error e

/-- The last name of a location that lies directly in a directory. -/
def nameIn (dir : Location) (l : Location) : Option String :=
  if l.dropLast = dir then l.getLast? else none

/-- The names in a directory. -/
def names (v : Volume) (path : String) : Except FileFailure (List String) :=
  match v.resolve (Files.pathPieces path) with
  | .error e => .error e
  | .ok l =>
    match v.node? l with
    | none => .error .notFound
    | some .folder => .ok (v.nodes.filterMap fun n => nameIn l n.1)
    | some _ => .error .notADirectory

/-! ### Changing -/

/-- A volume with something put at a location. -/
def put (v : Volume) (l : Location) (n : Node) : Volume :=
  if v.nodes.any (·.1 == l) then ⟨v.nodes.map fun m => if m.1 = l then (l, n) else m⟩
  else ⟨v.nodes ++ [(l, n)]⟩

/-- Write a text to a file. -/
def write (v : Volume) (path text : String) : Except FileFailure Volume :=
  match v.resolve (Files.pathPieces path) with
  | .error e => .error e
  | .ok l => if v.node? l = some .folder then .error .isADirectory else .ok (v.put l (.text text))

/-- Make a directory at a location, unless there is one. -/
def makeAt (v : Volume) (l : Location) : Except FileFailure (Volume × Location) :=
  match v.node? l with
  | none => .ok (v.put l .folder, l)
  | some .folder => .ok (v, l)
  | some _ => .error .alreadyExists

/-- The path of the directory above, both backwards.  Pieces that stand for nothing do not
count as a directory, whether they follow the last name or the one before it. -/
def above (backwards : List String) : List String :=
  (backwards.dropWhile Files.isIdle).tail.dropWhile Files.isIdle

theorem length_above_lt {p : String} {ps : List String} :
    (above (p :: ps)).length < (p :: ps).length := by
  have inner : ((p :: ps).dropWhile Files.isIdle).length ≤ (p :: ps).length :=
    (List.dropWhile_suffix _).length_le
  have outer : (above (p :: ps)).length ≤ ((p :: ps).dropWhile Files.isIdle).tail.length :=
    (List.dropWhile_suffix _).length_le
  rw [List.length_tail] at outer
  simp only [List.length_cons] at inner ⊢
  omega

/-- The pieces of a path that follow the directory above, in their order. -/
def below (backwards : List String) : List String :=
  (backwards.take (backwards.length - (above backwards).length)).reverse

/-- Make a directory and the directories above it, as far as they are missing, and tell where
it lies.  The pieces of its path are given backwards, and counted from a location. -/
def makeAll (v : Volume) (base : Location) :
    List String → Except FileFailure (Volume × Location)
  | [] => .ok (v, base)
  | p :: ps =>
    match v.followAll base (p :: ps).reverse with
    | .ok l => v.makeAt l
    -- the directory above is missing
    | .error .notFound =>
      match v.makeAll base (above (p :: ps)) with
      | .error e => .error e
      | .ok (w, l) =>
        -- a path such as `a/..` leads to a directory once `a` is made
        match w.followAll l (below (p :: ps)) with
        | .error e => .error e
        | .ok m => w.makeAt m
    | .error e => .error e
termination_by ps => ps.length
decreasing_by exact length_above_lt

/-- Make a directory and the directories above it, as far as they are missing.  Slashes at the
end of its path do not matter. -/
def makeFolder (v : Volume) (path : String) : Except FileFailure Volume :=
  let pieces := Files.pathPieces path
  if isOverlong pieces then .error .nameTooLong
  else
    match v.makeAll (start pieces).1 ((start pieces).2.reverse.dropWhile (· == "")) with
    | .ok (w, _) => .ok w
    | .error e => .error e

/-! ### The disk -/

/-- Change the volume, if the change succeeds. -/
def changed (f : Volume → Except FileFailure Volume) : StateM Volume (Except FileFailure Unit) :=
  fun v =>
    match f v with
    | .ok w => (.ok (), w)
    | .error e => (.error e, v)

/-- The disk whose state is a volume. -/
def disk : Disk (StateM Volume) where
  read path := fun v => (v.read path, v)
  names path := fun v => (v.names path, v)
  holds path := fun v => (v.holds path, v)
  makeFolder path := changed fun v => v.makeFolder path
  write path text := changed fun v => v.write path text

end Volume

end AsmPair
