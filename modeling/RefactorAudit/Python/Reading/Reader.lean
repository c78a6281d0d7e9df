-- SUMMARY: Reading a source into one node, with the mending of faults.
import RefactorAudit.Python.Reading.Stack

/-!
# Reader

The reader takes token after token and lets every version of the stack act on it. Where the grammar
is ambiguous versions multiply; versions that meet join again, and those that are clearly worse than
another are dropped.

A version that cannot read a token is paused. If all are, the best one mends the fault: it may close
productions early, supply one token, drop what was read since some earlier state, or skip tokens,
and goes on with whichever costs least.
-/

namespace RefactorAudit.Python

open RefactorAudit.Text (Position)
open RefactorAudit.Grammar

/-- A token found at a place in a layout, and the state that looked for it. -/
structure Cached where
  state : Nat
  offset : Nat
  layout : Option Layout
  token : Token
  deriving Inhabited

/-- The state of a reading. -/
structure Reader where
  source : Source
  stack : Stack
  finished : Option Node := none
  /-- How often the whole text has been read. -/
  accepted : Nat := 0
  /-- The last token found. -/
  cached : Option Cached := none
  deriving Inhabited

abbrev ReadM := StateM Reader

/-- At most so many versions are kept, and so many more while a token is being read. -/
def versionLimit : Nat := 6
def versionOverflow : Nat := 4

/-- How much dearer a version may be, for each node that the cheaper one has read since its
fault. -/
def costMargin : Nat := 16 * prices.skippedTree

namespace ReadM

/-- Changes the stack. -/
def onStack (f : Stack → Stack) : ReadM Unit
  | ⟨source, stack, finished, accepted, cached⟩ =>
    ((), ⟨source, f stack, finished, accepted, cached⟩)

/-- Changes the stack with a result. -/
def withStack (f : Stack → α × Stack) : ReadM α
  | ⟨source, stack, finished, accepted, cached⟩ =>
    let (a, stack) := f stack
    (a, ⟨source, stack, finished, accepted, cached⟩)

/-- Looks at the stack. -/
def fromStack (f : Stack → α) : ReadM α := fun r => (f r.stack, r)

def state (v : Nat) : ReadM Nat := fromStack (·.state v)

def versions : ReadM Nat := fromStack (·.versions)

def push (v : Nat) (part : Option Node) (state : Nat) : ReadM Unit
  | ⟨source, stack, finished, accepted, cached⟩ =>
    let stack := stack.push indexed v part state
    ((), ⟨source, stack, finished, accepted, cached⟩)

/-- Joins the second version to the first, if possible. -/
def merge (a b : Nat) : ReadM Bool := do
  withStack fun s =>
    match s.merge indexed a b with
    | some s => (true, s)
    | none => (false, s)

/-- What can be done in a state on a token. -/
def actions (state : Nat) (token : Node) : Array Action :=
  match token.info.label with
  | .symbol s => automaton.actions state s
  | _ => #[]

/-- The state behind a token: that of its last action, if this is a shift. -/
def stateAfter (state symbol : Nat) : Nat :=
  match (automaton.actions state symbol).back? with
  | some (.shift target _) => target
  | some .skip => state
  | _ => errorState

/-! ## Versions -/

/-- How good a version is. -/
structure Standing where
  cost : Nat
  progress : Nat
  preference : Int
  inFault : Bool
  deriving Inhabited

/-- How two versions compare: one is to be kept alone, or only preferred, or neither. -/
inductive Verdict where
  | takeLeft
  | preferLeft
  | neither
  | preferRight
  | takeRight
  deriving DecidableEq, Inhabited

def standing (v : Nat) : ReadM Standing := do
  let progress ← withStack (·.progress v)
  fromStack fun s =>
    let paused := (s.pausedToken v).isSome
    { cost := s.cost v + (if paused then prices.skippedTree else 0)
      progress
      preference := (s.top v).preference
      inFault := paused || s.state v = errorState }

def Standing.judge (a b : Standing) : Verdict :=
  if !a.inFault && b.inFault then
    if a.cost < b.cost then .takeLeft else .preferLeft
  else if a.inFault && !b.inFault then
    if b.cost < a.cost then .takeRight else .preferRight
  else if a.cost < b.cost then
    if (b.cost - a.cost) * (1 + a.progress) > costMargin then .takeLeft else .preferLeft
  else if b.cost < a.cost then
    if (a.cost - b.cost) * (1 + b.progress) > costMargin then .takeRight else .preferRight
  else if a.preference > b.preference then .preferLeft
  else if b.preference > a.preference then .preferRight
  else .neither

/-- Whether some other version makes it pointless to go on with this one at the given cost. -/
def betterExists (v : Nat) (inFault : Bool) (cost : Nat) : ReadM Bool := do
  let r ← get
  if (r.finished.elim false fun tree => tree.info.cost ≤ cost) then return true
  let progress ← withStack (·.progress v)
  let own : Standing :=
    { cost, progress, inFault, preference := ← fromStack fun s => (s.top v).preference }
  let offset ← fromStack fun s => (s.position v).offset
  for i in [0 : ← versions] do
    let skip ← fromStack fun s => i = v || !s.isActive i || (s.position i).offset < offset
    if !skip then
      match own.judge (← standing i) with
      | .takeRight => return true
      | .preferRight => if ← fromStack (·.canMerge i v) then return true
      | _ => pure ()
  return false

/-! ## Reading on -/

/-- Puts a token on a version. -/
def shift (v target : Nat) (token : Node) (extra : Bool) : ReadM Unit := do
  push v (some (token.setExtra extra)) target
  if token.info.layout.isSome then
    onStack (·.modifyHead v fun h => { h with layout := token.info.layout })

/-- Splits off the extra parts at the end. -/
def splitExtras (parts : List Node) : List Node × List Node :=
  let backwards := parts.reverse
  ((backwards.dropWhile (·.info.extra)).reverse, (backwards.takeWhile (·.info.extra)).reverse)

/-- Puts slices that end at one place together: each run of equal versions. -/
def groupSlices : List Slice → List (Nat × List (List Node))
  | [] => []
  | slice :: rest =>
    match groupSlices rest with
    | (v, parts) :: groups =>
      if v = slice.version then (v, slice.parts :: parts) :: groups
      else (slice.version, [slice.parts]) :: (v, parts) :: groups
    | [] => [(slice.version, [slice.parts])]

/-- Closes a production on a version: each way down the stack gives a new version with the
production in the place of its parts. The result is the first new version that is left. -/
def reduce (v rule size : Nat) (preference : Int) (production : Nat) : ReadM (Option Nat) := do
  let before ← versions
  let slices ← withStack (·.pop v size)
  let mut removed := 0
  for (version, ways) in groupSlices slices.toList do
    let version := version - removed
    if version > versionLimit + versionOverflow then
      onStack (·.remove version)
      removed := removed + 1
    else
      let place ← fromStack (·.position version)
      let build (production : Option Nat) (parts : List Node) : Node :=
        Node.parent indexed (.symbol (indexed.ruleBase + rule)) production 0 place parts
      let (first, others) := match ways with
        | first :: others => (splitExtras first, others)
        | [] => (([], []), [])
      let (node, extras) := others.foldl (fun (node, extras) way =>
        let (parts, more) := splitExtras way
        if node.replaces (build none parts) then (build (some production) parts, more)
        else (node, extras)) (build (some production) first.1, first.2)
      let node := match node with
        | .mk i cs => Node.mk { i with preference := i.preference + preference } cs
      let target := automaton.move (← state version) rule
      push version (some node) target
      for extra in extras do push version (some extra) target
      for j in [0 : version] do
        if j ≠ v then
          if ← merge j version then
            removed := removed + 1
            break
  return if (← versions) > before then some before else none

/-- Ends a version that has read the whole text. Its first parts become children of the root, and
the tree is kept if it is better than the one found before. -/
def accept (v : Nat) (token : Node) : ReadM Unit := do
  push v (some token) startState
  let slices ← withStack (·.popAll v)
  for slice in slices do
    let backwards := slice.parts.reverse
    match backwards.dropWhile (·.info.extra) with
    | [] => pure ()
    | body :: earlier =>
      let parts := earlier.reverse ++ body.children
        ++ (backwards.takeWhile (·.info.extra)).reverse
      let root := Node.parent indexed body.info.label body.info.production 0 {} parts
      modify fun r =>
        { r with
          accepted := r.accepted + 1
          finished := match r.finished with
            | some old => if old.replaces root then some root else some old
            | none => some root }
  match slices[0]? with
  | some slice => onStack (·.remove slice.version)
  | none => pure ()
  onStack (·.halt v)

/-! ## Mending -/

/-- The productions that may be closed in a state: on one token, or on any. Two closings of one rule
over as many parts count once. The second result tells whether something can be shifted. -/
def closings (state : Nat) (token : Option Nat) : Array Action × Bool := Id.run do
  let tokens := match token with
    | some t => [t]
    | none => (automaton.expected state).members endToken
  let mut result : Array Action := #[]
  let mut shifts := false
  for t in tokens do
    for action in automaton.actions state t do
      match action with
      | .shift _ repeated => if !repeated then shifts := true
      | .recover => shifts := true
      | .reduce rule size _ _ =>
        let known := result.any fun
          | .reduce rule' size' _ _ => rule = rule' && size = size'
          | _ => false
        if size > 0 && !known then result := result.push action
      | _ => pure ()
  return (result, shifts)

/-- Tries to join a version to one of the versions from `low` up to it. -/
def mergeBelow (low v : Nat) : ReadM Bool := do
  for j in [low : v] do
    if ← merge j v then return true
  return false

/-- Closes all productions that can be closed, on one token or on any, from a version on. The result
tells whether the token can then be shifted. `tries` counts the versions looked at. -/
def closeAll (initial start : Nat) (token : Option Nat) :
    Nat → Nat → Nat → Bool → ReadM Bool
  | 0, _, _, found => return found
  | fuel + 1, v, tries, found => do
    let count ← versions
    if v ≥ count then return found
    if ← mergeBelow initial v then closeAll initial start token fuel v (tries + 1) found else
    let (reductions, shifts) := closings (← state v) token
    let mut last : Option Nat := none
    for action in reductions do
      match action with
      | .reduce rule size preference production =>
        last ← reduce v rule size preference production
      | _ => pure ()
    let next := if v = start then count else v + 1
    if shifts then closeAll initial start token fuel next (tries + 1) true
    else match last with
      | some n =>
        if tries < versionLimit then
          onStack (·.renumber n v)
          closeAll initial start token fuel v (tries + 1) found
        else if token.isSome then
          onStack (·.remove v)
          closeAll initial start token fuel next (tries + 1) found
        else closeAll initial start token fuel next (tries + 1) found
      | none =>
        if token.isSome then
          onStack (·.remove v)
          closeAll initial start token fuel next (tries + 1) found
        else closeAll initial start token fuel next (tries + 1) found

/-- Closes all productions that can be closed from a version on. -/
def closeAllFrom (v : Nat) (token : Option Nat) : ReadM Bool := do
  closeAll (← versions) v token 4096 v 0 false

/-- Gives up what a version has read since a state some parts below; the parts become a fault. The
result tells whether that state was found. -/
def recoverTo (v depth goal : Nat) : ReadM Bool := do
  let slices ← withStack (·.pop v depth)
  let mut previous : Option Nat := none
  for slice in slices do
    if previous = some slice.version then pure ()
    else if (← state slice.version) ≠ goal then onStack (·.halt slice.version)
    else
      let earlier ← withStack (·.popFault slice.version)
      let parts := match earlier with
        | fault :: _ => fault.children ++ slice.parts
        | [] => slice.parts
      let (parts, extras) := splitExtras parts
      if !parts.isEmpty then
        let place ← fromStack (·.position slice.version)
        let fault := (Node.parent indexed .fault none 0 place parts).setExtra true
        push slice.version (some fault) goal
      for extra in extras do push slice.version (some extra) goal
      previous := some slice.version
  return previous.isSome

/-- Removes versions from `low` on that were given up. -/
def removeHalted : Nat → Nat → ReadM Unit
  | 0, _ => pure ()
  | fuel + 1, v => do
    if v < (← versions) then
      if ← fromStack (!·.isActive v) then
        onStack (·.remove v)
        removeHalted fuel v
      else removeHalted fuel (v + 1)

/-- Goes back to a state below the fault in which the token can be read, if that is worth its
cost. -/
def recoverBelow (v : Nat) (token : Node) : ReadM Bool := do
  if token.isFault then return false
  let before ← versions
  let place ← fromStack (·.position v)
  let progress ← withStack (·.progress v)
  let cost ← fromStack (·.cost v)
  let levels ← fromStack fun s => ((s.head v).levels).getD #[]
  for level in levels do
    if level.state ≠ errorState && level.position.offset ≠ place.offset then
      let depth := if progress > 0 then level.depth + 1 else level.depth
      let met ← fromStack fun s => (List.range before).any fun j =>
        s.state j = level.state && (s.position j).offset = place.offset
      if !met then
        let total := cost + prices.skippedTree * level.depth
          + (place.offset - level.position.offset) * prices.skippedByte
          + (place.row - level.position.row) * prices.skippedLine
        if ← betterExists v false total then return false
        if !(actions level.state token).isEmpty then
          if ← recoverTo v depth level.state then return true
  return false

/-- Skips a token: it becomes a part of the fault. -/
def skipToken (v : Nat) (token : Node) : ReadM Unit := do
  let extra := match token.info.label with
    | .symbol s => indexed.extras.has s
    | _ => false
  let token := if extra then token.setExtra true else token
  let place ← fromStack (·.position v)
  let mut skipped := Node.parent indexed .skipped none 0 place [token]
  if (← withStack (·.progress v)) > 0 then
    let slices ← withStack (·.pop v 1)
    match slices[0]? with
    | some slice =>
      if slices.size > 1 then
        onStack fun s => { s with heads := s.heads.extract 0 (slice.version + 1) }
      onStack (·.renumber slice.version v)
      skipped := Node.parent indexed .skipped none 0 place (slice.parts ++ [skipped])
    | none => pure ()
  push v (some skipped) errorState
  if token.info.layout.isSome then
    onStack (·.modifyHead v fun h => { h with layout := token.info.layout })

/-- Mends a fault at a token: by going back to a state that can read it, by skipping it, or both. At
the end of the text everything becomes one fault. -/
def recover (v : Nat) (token : Node) : ReadM Unit := do
  let before ← versions
  let mended ← recoverBelow v token
  removeHalted 4096 before
  if token.info.label = .symbol endToken then
    let place ← fromStack (·.position v)
    push v (some (Node.parent indexed .fault none 0 place [])) startState
    accept v token
  else if mended && ((← versions) > versionLimit || token.info.changed) then
    onStack (·.halt v)
  else
    let cost := (← fromStack (·.cost v)) + prices.skippedTree
      + token.totalBytes * prices.skippedByte
      + (token.info.stop.row - token.info.before.row) * prices.skippedLine
    if ← betterExists v false cost then onStack (·.halt v)
    else skipToken v token

/-- Supplies the first token with which the token ahead can be read, if there is one, in a version
of its own. -/
def supply (v : Nat) (ahead : Option Nat) : ReadM Bool := do
  let own ← state v
  match ahead with
  | none => return false
  | some ahead =>
    for symbol in [0 : endToken] do
      if (automaton.expected own).has symbol then
        let after := stateAfter own symbol
        if after ≠ errorState && after ≠ own then
          match (automaton.actions after ahead)[0]? with
          | some (.reduce ..) =>
            let place ← fromStack (·.position v)
            let copy ← versions
            onStack (·.copy v)
            push copy (some (Node.absent symbol place)) after
            if ← closeAllFrom copy (if ahead = endToken then none else some ahead) then return true
          | _ => pure ()
    return false

/-- Meets a fault: closes what can be closed, supplies a token if that helps, marks the fault on the
stack, and mends it. -/
def meetFault (v : Nat) (token : Node) : ReadM Unit := do
  let before ← versions
  let _ ← closeAllFrom v none
  let after ← versions
  let ahead := match token.info.label with
    | .symbol s => some s
    | _ => none
  let mut supplied := false
  for k in [0 : after - before + 1] do
    let w := if k = 0 then v else before + k - 1
    if !supplied then supplied ← supply w ahead
    push w none errorState
  for _ in [before : after] do
    let _ ← merge v before
  onStack (·.recordLevels v)
  recover v token

/-! ## Rounds -/

/-- Acts on a token in a version until the token is read, the version is given up or paused. -/
def act : Nat → Nat → Node → ReadM Unit
  | 0, v, _ => onStack (·.halt v)
  | fuel + 1, v, token => do
    let here ← state v
    let mut last : Option Nat := none
    let mut reduced := false
    for action in actions here token do
      match action with
      | .shift target repeated =>
        if !repeated then
          shift v target token false
          return
      | .skip =>
        shift v here token true
        return
      | .reduce rule size preference production =>
        reduced := true
        match ← reduce v rule size preference production with
        | some n => last := some n
        | none => pure ()
      | .accept =>
        accept v token
        return
      | .recover =>
        recover v token
        return
    match last with
    | some n =>
      onStack (·.renumber n v)
      act fuel v token
    | none =>
      if reduced then onStack (·.halt v)
      else
        let asName := match token with
          | .mk i cs => Node.mk { i with label := .symbol automaton.grammar.name } cs
        let renamed := token.info.keyword && token.info.label ≠ .symbol automaton.grammar.name
        let canRename := renamed && !(actions here asName).isEmpty
        if canRename then act fuel v asName
        else if here = errorState then recover v token
        else onStack (·.pause v token)

/-- The token found last, if a version stands where it was found and its state looks for the same
tokens and can read it. -/
def cachedToken? (v : Nat) : ReadM (Option Token) := do
  let r ← get
  let here := r.stack.state v
  return r.cached.bind fun c =>
    let same := c.offset = (r.stack.position v).offset && c.layout = (r.stack.head v).layout
      && automaton.looksAlike here c.state
    let readable := c.token.symbol.elim false fun t =>
      (automaton.expected here).has t
        && (t ≠ automaton.grammar.name || (!c.token.keyword && here = c.state))
    if same && readable then some c.token else none

/-- The next token of a version. -/
def nextToken (v : Nat) : ReadM Token := do
  match ← cachedToken? v with
  | some token => return token
  | none =>
    let r ← get
    let here := r.stack.state v
    let place := r.stack.position v
    let layout := (r.stack.head v).layout
    let token := readToken r.source automaton here (r.stack.hasMoved v) layout place
    set { r with cached := some ⟨here, place.offset, layout, token⟩ }
    return token

/-- Reads one token on a version. -/
def advance (v : Nat) : ReadM Unit := do
  let place ← fromStack (·.position v)
  let token ← nextToken v
  act (64 * ((← get).source.size + 16)) v (Node.leaf token place)

/-- Advances a version until it is ahead of all versions read before it. The result is the place
reached. -/
def advanceUntil (v : Nat) : Nat → Nat → ReadM Nat
  | 0, last => return last
  | fuel + 1, last => do
    if !(← fromStack (·.isActive v)) then return last
    advance v
    let offset ← fromStack fun s => (s.position v).offset
    if offset > last || (v > 0 && offset = last) then return offset
    advanceUntil v fuel last

/-- Advances all versions in turn, those made on the way too. -/
def advanceAll : Nat → Nat → Nat → ReadM Nat
  | 0, _, last => return last
  | fuel + 1, v, last => do
    if v < (← versions) then
      let last ← advanceUntil v (64 * ((← get).source.size + 16)) last
      advanceAll fuel (v + 1) last
    else return last

/-- Compares a version with those before it. The result is the index to go on with. -/
def sift (own : Standing) : Nat → Nat → Nat → ReadM Nat
  | 0, i, _ => return i + 1
  | fuel + 1, i, j => do
    if j ≥ i then return i + 1
    match (← standing j).judge own with
    | .takeLeft =>
      onStack (·.remove i)
      return i
    | .preferLeft | .neither =>
      if ← merge j i then return i
      sift own fuel i (j + 1)
    | .preferRight =>
      if ← merge j i then return i
      onStack (·.swap i j)
      sift own fuel i (j + 1)
    | .takeRight =>
      onStack (·.remove j)
      sift own fuel (i - 1) j

/-- Drops and joins versions, the best first. The result is the least cost of a version without an
open fault. -/
def siftAll : Nat → Nat → Option Nat → ReadM (Option Nat)
  | 0, _, least => return least
  | fuel + 1, i, least => do
    if i ≥ (← versions) then return least
    if ← fromStack (·.isHalted i) then
      onStack (·.remove i)
      siftAll fuel i least
    else
      let own ← standing i
      let least := if own.inFault then least
        else some (least.elim own.cost fun l => min l own.cost)
      siftAll fuel (← sift own 4096 i 0) least

/-- Lets the first version go on if it is paused, and drops the other paused ones. -/
def resumeBest : Nat → Nat → Nat → Bool → Option Nat → ReadM (Option Nat)
  | 0, _, _, _, least => return least
  | fuel + 1, i, n, going, least => do
    if i ≥ n then return least
    match ← fromStack (·.pausedToken i) with
    | some token =>
      if !going && (← get).accepted < versionLimit then
        let least ← fromStack fun s => some (s.cost i)
        onStack (·.resume i)
        -- the recovery of a paused version is no longer part of its cost
        meetFault i token
        resumeBest fuel (i + 1) n true least
      else
        onStack (·.remove i)
        resumeBest fuel i (n - 1) going least
    | none => resumeBest fuel (i + 1) n true least

/-- Puts the versions in order and drops those not worth keeping. -/
def condense : ReadM (Option Nat) := do
  let least ← siftAll 4096 0 none
  onStack fun s => { s with heads := s.heads.extract 0 versionLimit }
  resumeBest 64 0 (← versions) false least

/-- Reads until no version is left or the tree found cannot be beaten. -/
def rounds : Nat → Nat → ReadM Unit
  | 0, _ => pure ()
  | fuel + 1, last => do
    let last ← advanceAll 4096 0 last
    let least ← condense
    let done := ((← get).finished).elim false fun tree =>
      least.elim true fun least => tree.info.cost < least
    if done || (← versions) = 0 then pure () else rounds fuel last

end ReadM

/-- The whole source as one node. -/
def readSource (source : Source) : Option Node :=
  let start : Reader := { source, stack := Stack.new }
  ((ReadM.rounds (64 * (source.size + 16)) 0).run start).2.finished

end RefactorAudit.Python
