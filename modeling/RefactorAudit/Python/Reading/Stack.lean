-- SUMMARY: A stack of parts read so far that forks where a reading is open and joins again.
import RefactorAudit.Python.Reading.Node

/-!
# Forked stack

A text may be read in several ways at once. Each way is a *version*: a head on a graph of stack
nodes that versions share. A stack node holds the state of the automaton and links down to the nodes
below, each with the part that lies between. Versions that reach the same state at the same place
join: the node of one takes over the links of the other, and which way is kept is settled when a
production over them is closed.
-/

namespace RefactorAudit.Python

open RefactorAudit.Text (Position)
open RefactorAudit.Grammar

/-- A step down the stack. A link without a part marks a fault. -/
structure Link where
  below : Nat
  part : Option Node
  deriving Inhabited

/-- A place on the stack, with sums over the parts below it. -/
structure StackNode where
  state : Nat
  position : Position
  links : Array Link := #[]
  cost : Nat := 0
  count : Nat := 0
  preference : Int := 0
  deriving Inhabited

/-- Whether a version goes on, waits at a fault with the token it could not read, or is given up. -/
inductive Status where
  | active
  | paused (token : Node)
  | halted
  deriving Inhabited

/-- A state that lies below a fault. -/
structure Level where
  position : Position
  depth : Nat
  state : Nat
  deriving Inhabited

/-- A version of the reading. -/
structure Head where
  node : Nat
  /-- The node count when the last fault was met. -/
  countAtFault : Nat := 0
  layout : Option Layout := none
  /-- The states below the fault that is being mended. -/
  levels : Option (Array Level) := none
  status : Status := .active
  deriving Inhabited

/-- All versions of a reading. -/
structure Stack where
  nodes : Array StackNode
  heads : Array Head
  deriving Inhabited

/-- Parts taken off the stack, and the version that is left below them. -/
structure Slice where
  parts : List Node
  version : Nat
  deriving Inhabited

/-- Bounds on the graph. -/
structure Bounds where
  links : Nat
  walks : Nat
  levels : Nat

def bounds : Bounds := { links := 8, walks := 64, levels := 16 }

namespace Stack

/-- A stack with one version that has read nothing. -/
def new : Stack :=
  { nodes := #[{ state := startState, position := {} }], heads := #[{ node := 0 }] }

def head (s : Stack) (v : Nat) : Head := s.heads[v]?.getD default

def node (s : Stack) (n : Nat) : StackNode := s.nodes[n]?.getD default

def top (s : Stack) (v : Nat) : StackNode := s.node (s.head v).node

def state (s : Stack) (v : Nat) : Nat := (s.top v).state

def position (s : Stack) (v : Nat) : Position := (s.top v).position

def versions (s : Stack) : Nat := s.heads.size

def isActive (s : Stack) (v : Nat) : Bool :=
  match (s.head v).status with
  | .active => true
  | _ => false

def isHalted (s : Stack) (v : Nat) : Bool :=
  match (s.head v).status with
  | .halted => true
  | _ => false

def pausedToken (s : Stack) (v : Nat) : Option Node :=
  match (s.head v).status with
  | .paused token => some token
  | _ => none

def modifyHead (s : Stack) (v : Nat) (f : Head → Head) : Stack :=
  { s with heads := s.heads.modify v f }

/-- What the version costs so far. A fault that is not mended yet counts as one recovery. -/
def cost (s : Stack) (v : Nat) : Nat :=
  let top := s.top v
  let open_ := (s.pausedToken v).isSome ||
    (top.state = errorState && (top.links[0]?.bind (·.part)).isNone)
  top.cost + (if open_ then prices.recovery else 0)

/-- Nodes read since the last fault. The count at the fault is lowered to the present one if the
stack has shrunk below it. -/
def progress (s : Stack) (v : Nat) : Nat × Stack :=
  let h := s.head v
  let now := (s.node h.node).count
  if now < h.countAtFault then (0, s.modifyHead v fun h => { h with countAtFault := now })
  else (now - h.countAtFault, s)

/-- Puts a part on a version. -/
def push (g : Indexed) (s : Stack) (v : Nat) (part : Option Node) (state : Nat) : Stack :=
  let h := s.head v
  let below := s.node h.node
  let top : StackNode := match part with
    | none => { below with state, links := #[⟨h.node, none⟩] }
    | some p =>
      { state, links := #[⟨h.node, some p⟩]
        position := p.info.stop
        cost := below.cost + p.info.cost
        count := below.count + p.count g
        preference := below.preference + p.info.preference }
  let index := s.nodes.size
  { nodes := s.nodes.push top
    heads := s.heads.modify v fun h => { h with
      node := index
      countAtFault := if part.isNone then top.count else h.countAtFault } }

def remove (s : Stack) (v : Nat) : Stack := { s with heads := s.heads.eraseIdxIfInBounds v }

def halt (s : Stack) (v : Nat) : Stack := s.modifyHead v fun h => { h with status := .halted }

/-- Stops a version at a token that it cannot read. -/
def pause (s : Stack) (v : Nat) (token : Node) : Stack :=
  let count := (s.top v).count
  s.modifyHead v fun h => { h with status := .paused token, countAtFault := count }

def resume (s : Stack) (v : Nat) : Stack := s.modifyHead v fun h => { h with status := .active }

def swap (s : Stack) (a b : Nat) : Stack :=
  let x := s.head a
  let y := s.head b
  (s.modifyHead a fun _ => y).modifyHead b fun _ => x

/-- Lets one version take the place of another. -/
def renumber (s : Stack) (source target : Nat) : Stack :=
  if source = target then s else
  let moved := s.head source
  let old := s.head target
  let moved := { moved with levels := moved.levels <|> old.levels }
  (s.modifyHead target fun _ => moved).remove source

/-- A second version like the given one. -/
def copy (s : Stack) (v : Nat) : Stack :=
  { s with heads := s.heads.push { s.head v with levels := none } }

/-! ## Joining -/

def sameParts : Option Node → Option Node → Bool
  | none, none => true
  | some a, some b => a.alike b
  | _, _ => false

private def partPreference (part : Option Node) : Int := part.elim 0 (·.info.preference)

/-- Adds a link to a stack node. A link that repeats one of its links is dropped, the part of higher
preference kept; links over equal parts to nodes in the same state join these nodes in turn.
`fuel` bounds that descent. -/
def addLink (g : Indexed) : Nat → Stack → Nat → Link → Stack
  | 0, s, _, _ => s
  | fuel + 1, s, n, link =>
    if link.below = n then s else
    let self := s.node n
    let modify (s : Stack) (f : StackNode → StackNode) : Stack :=
      { s with nodes := s.nodes.modify n f }
    let lower := s.node link.below
    let same := self.links.findIdx? fun old =>
      sameParts old.part link.part && (old.below = link.below ||
        ((s.node old.below).state = lower.state
          && (s.node old.below).position.offset = lower.position.offset
          && (s.node old.below).cost = lower.cost))
    match same with
    | some i =>
      let old := self.links[i]?.getD default
      let total := lower.preference + partPreference link.part
      if old.below = link.below then
        if partPreference link.part > partPreference old.part then
          modify s fun node => { node with
            links := node.links.modify i fun l => { l with part := link.part }
            preference := total }
        else s
      else
        let s := lower.links.foldl (fun s l => addLink g fuel s old.below l) s
        modify s fun node => { node with preference := max node.preference total }
    | none =>
      if self.links.size = bounds.links then s else
      modify s fun node => { node with
        links := node.links.push link
        count := max node.count (lower.count + link.part.elim 0 (·.count g))
        preference := max node.preference (lower.preference + partPreference link.part) }

/-- Whether two versions stand in the same state at the same place at the same cost. -/
def canMerge (s : Stack) (a b : Nat) : Bool :=
  s.isActive a && s.isActive b &&
    (s.top a).state = (s.top b).state &&
    (s.top a).position.offset = (s.top b).position.offset &&
    (s.top a).cost = (s.top b).cost &&
    (s.head a).layout = (s.head b).layout

/-- Joins the second version to the first if they stand at the same point. -/
def merge (g : Indexed) (s : Stack) (a b : Nat) : Option Stack :=
  if !s.canMerge a b then none else
  let target := (s.head a).node
  let s := (s.top b).links.foldl (fun s link => addLink g 64 s target link) s
  let s := if (s.top a).state = errorState then
      let count := (s.top a).count
      s.modifyHead a fun h => { h with countAtFault := count }
    else s
  some (s.remove b)

/-! ## Walking down -/

/-- A walk down the stack: the parts passed, lowest first, and how many of them count. -/
structure Walk where
  node : Nat
  parts : List Node := []
  count : Nat := 0
  deriving Inhabited

/-- What to do at a place of a walk. -/
inductive Visit where
  | goOn
  | stop
  /-- Take the parts and stop. -/
  | take
  deriving DecidableEq, Inhabited

/-- A step down one link. -/
def Walk.down (w : Walk) (link : Link) : Walk :=
  match link.part with
  | none => { node := link.below, parts := w.parts, count := w.count + 1 }
  | some p =>
    { node := link.below, parts := p :: w.parts
      count := if p.info.extra then w.count else w.count + 1 }

/-- One round of walks: each walk is visited and then goes down its links. The first link goes on
with the walk itself; the others start walks at the end of the row, as long as there is room for
more. `taken` gathers, newest last, the walks that are taken, and `α` is what the visits
remember. -/
def walkRound (s : Stack) (visit : α → Walk → Visit × α) (row : Array Walk) (memory : α)
    (taken : Array Walk) : Array Walk × α × Array Walk :=
  let (kept, branches, memory, taken, _) := row.foldl
    (fun (kept, branches, memory, taken, ahead) w =>
      let (what, memory) := visit memory w
      let links := (s.node w.node).links
      match what with
      | .take => (kept, branches, memory, taken.push w, ahead - 1)
      | .stop => (kept, branches, memory, taken, ahead - 1)
      | .goOn =>
        match links[0]? with
        | none => (kept, branches, memory, taken, ahead - 1)
        | some first =>
          let room := bounds.walks - (kept.size + ahead + branches.size)
          let others := (links.extract 1 links.size).extract 0 room
          (kept.push (w.down first), branches ++ others.map w.down, memory, taken, ahead - 1))
    (#[], #[], memory, taken, row.size)
  (kept ++ branches, memory, taken)

/-- Walks from a stack node until all walks have stopped; `fuel` counts rounds. -/
def walk (s : Stack) (visit : α → Walk → Visit × α) :
    Nat → Array Walk → α → Array Walk → Array Walk × α
  | 0, _, memory, taken => (taken, memory)
  | fuel + 1, row, memory, taken =>
    if row.isEmpty then (taken, memory) else
    let (row, memory, taken) := s.walkRound visit row memory taken
    walk s visit fuel row memory taken

/-- The last slice whose version stands on a stack node. -/
def lastSliceAt (s : Stack) (slices : Array Slice) (n : Nat) : Option (Nat × Slice) :=
  slices.toList.zipIdx.reverse.findSome? fun (slice, i) =>
    if (s.head slice.version).node = n then some (i, slice) else none

/-- Makes a version for each place where a walk was taken; walks that end at one place share it, and
stand together. -/
def slices (s : Stack) (origin : Nat) (taken : Array Walk) : Array Slice × Stack :=
  taken.foldl (fun (slices, s) w =>
    match s.lastSliceAt slices w.node with
    | some (i, slice) =>
      (slices.insertIdxIfInBounds (i + 1) ⟨w.parts, slice.version⟩, s)
    | none =>
      let h := s.head origin
      let new : Head := { node := w.node, countAtFault := h.countAtFault, layout := h.layout }
      (slices.push ⟨w.parts, s.heads.size⟩, { s with heads := s.heads.push new }))
    (#[], s)

/-- Takes the last `count` parts off a version; extra parts among them do not count. -/
def pop (s : Stack) (v count : Nat) : Array Slice × Stack :=
  let (taken, _) := s.walk (fun (_ : Unit) w =>
    (if w.count = count then .take else .goOn, ())) (s.nodes.size + 2)
    #[{ node := (s.head v).node }] () #[]
  s.slices v taken

/-- Takes everything off a version. -/
def popAll (s : Stack) (v : Nat) : Array Slice × Stack :=
  let (taken, _) := s.walk (fun (_ : Unit) w =>
    (if (s.node w.node).links.isEmpty then .take else .goOn, ())) (s.nodes.size + 2)
    #[{ node := (s.head v).node }] () #[]
  s.slices v taken

/-- Takes a fault off the top of a version, if one lies there. -/
def popFault (s : Stack) (v : Nat) : List Node × Stack :=
  let isFault (link : Link) : Bool := link.part.elim false (·.isFault)
  if !(s.top v).links.any isFault then ([], s) else
  let (taken, _) := s.walk (fun (found : Bool) w =>
    match w.parts with
    | [] => (.goOn, found)
    | p :: _ => if !found && p.isFault then (.take, true) else (.stop, found)) 4
    #[{ node := (s.head v).node }] false #[]
  let (found, s) := s.slices v taken
  match found[0]? with
  | some slice => (slice.parts, s.renumber slice.version v)
  | none => ([], s)

/-- Remembers the states that lie below a version, up to a depth. -/
def recordLevels (s : Stack) (v : Nat) : Stack :=
  let (_, levels) := s.walk (fun (levels : Array Level) w =>
    if w.count > bounds.levels then (.stop, levels) else
    let place := s.node w.node
    let near := levels.toList.reverse.takeWhile (·.depth ≥ w.count)
    let known := near.any fun l => l.depth = w.count && l.state = place.state
    if known then (.goOn, levels)
    else (.goOn, levels.push ⟨place.position, w.count, place.state⟩)) (s.nodes.size + 2)
    #[{ node := (s.head v).node }] #[] #[]
  s.modifyHead v fun h => { h with levels := some levels }

/-- Whether the version has read some text since its last fault. -/
def hasMoved (s : Stack) (v : Nat) : Bool :=
  let h := s.head v
  let start := s.node h.node
  if start.cost = 0 then true else go s h.countAtFault (s.nodes.size + 1) h.node
where
  /-- Looks down the first links for a part with text. -/
  go (s : Stack) (countAtFault : Nat) : Nat → Nat → Bool
    | 0, _ => false
    | fuel + 1, n =>
      let place := s.node n
      match (place.links[0]?.bind fun link => link.part.map fun part => (link.below, part)) with
      | some (below, part) =>
        if part.totalBytes > 0 then true
        else if place.count > countAtFault && part.info.cost = 0 then go s countAtFault fuel below
        else false
      | none => false

end Stack

end RefactorAudit.Python
