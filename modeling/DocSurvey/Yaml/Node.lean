import DocSurvey.Yaml.Token

/-! The value that a YAML text holds: scalars, sequences and mappings, each with the place where it
starts. An alias is the node that its anchor names.
-/

namespace DocSurvey.Yaml

/-- A value of a document. -/
inductive Node where
  | scalar (start : Mark) (tag : Option String) (style : ScalarStyle) (text : String)
  | sequence (start : Mark) (tag : Option String) (items : List Node)
  | mapping (start : Mark) (tag : Option String) (entries : List (Node × Node))
  deriving Repr, Inhabited

namespace Node

def empty (start : Mark) (tag : Option String) : Node :=
  .scalar start tag .plain ""

def start : Node → Mark
  | .scalar start _ _ _ => start
  | .sequence start _ _ => start
  | .mapping start _ _ => start

end Node

/-- Tokens being read: those that are left, the nodes that anchors name, the last one first, and
what the handles of tags stand for.
-/
structure Reading where
  tokens : List Token
  anchors : List (List Char × Node)
  handles : List (List Char × List Char)
  deriving Inhabited

/-- A rule that reads tokens or refuses them. -/
abbrev NodeReader := StateT Reading Option

namespace NodeReader

def peek : NodeReader Token := do
  match (← get).tokens with
  | token :: _ => pure token
  | [] => failure

def advance : NodeReader Unit :=
  modify fun s => { s with tokens := s.tokens.drop 1 }

def accept (kind : TokenKind) : NodeReader (Option Mark) := do
  let token ← peek
  if token.kind == kind then
    advance
    pure (some token.stop)
  else
    pure none

def expect (kind : TokenKind) : NodeReader Unit := do
  match ← accept kind with
  | some _ => pure ()
  | none => failure

def isAt (kinds : List TokenKind) : NodeReader Bool :=
  return kinds.contains (← peek).kind

/-- The handles that every document knows. -/
def standardHandles : List (List Char × List Char) :=
  [(['!'], ['!']), (['!', '!'], "tag:yaml.org,2002:".toList)]

/-- The whole tag of a handle and what follows it; none if the handle is not known. -/
def wholeTag (handle tagSuffix : List Char) : NodeReader String := do
  if handle.isEmpty then
    pure (String.ofList tagSuffix)
  else
    match ((← get).handles ++ standardHandles).lookup handle with
    | some start => pure (String.ofList (start ++ tagSuffix))
    | none => failure

/-- What can stand in front of a value. -/
structure Properties where
  anchor : Option (List Char)
  tag : Option String
  start : Option Mark
  deriving Inhabited

/-- An anchor and a tag, in either order. -/
def properties : NodeReader Properties := do
  let first ← one ⟨none, none, none⟩
  one first
where
  one (found : Properties) : NodeReader Properties := do
    let token ← peek
    match token.kind with
    | .anchor name =>
        if found.anchor.isSome then pure found
        else
          advance
          pure { found with anchor := some name, start := some (found.start.getD token.start) }
    | .tag handle tagSuffix =>
        if found.tag.isSome then pure found
        else
          advance
          let tag ← wholeTag handle tagSuffix
          pure { found with tag := some tag, start := some (found.start.getD token.start) }
    | _ => pure found

/-- Lets the anchor, if there is one, name the node. -/
def register (anchor : Option (List Char)) (node : Node) : NodeReader Unit :=
  match anchor with
  | some name => modify fun s => { s with anchors := (name, node) :: s.anchors }
  | none => pure ()

/-- What ends an entry of a block mapping. -/
def blockEntryEnds : List TokenKind := [.key, .value, .blockEnd]

mutual

/-- A value. In a block it may be a block itself; as the value of a key it may also be a sequence
whose dashes stand below the key.
-/
def node (inBlock belowKey : Bool) : Nat → NodeReader Node
  | 0 => failure
  | depth + 1 => do
      let token ← peek
      match token.kind with
      | .alias name => do
          advance
          match (← get).anchors.lookup name with
          | some found => pure found
          | none => failure
      | _ => do
          let found ← properties
          let token ← peek
          let start := found.start.getD token.start
          register found.anchor (.empty start found.tag)
          let read ← match token.kind, inBlock, belowKey with
            | .blockEntry, _, true => do
                pure (Node.sequence start found.tag (← blockItems false depth))
            | .scalar style text, _, _ => do
                advance
                pure (.scalar start found.tag style (String.ofList text))
            | .flowSequenceStart, _, _ => do
                advance
                pure (.sequence start found.tag (← flowItems true depth))
            | .flowMappingStart, _, _ => do
                advance
                pure (.mapping start found.tag (← flowEntries true depth))
            | .blockSequence, true, _ => do
                advance
                pure (.sequence start found.tag (← blockItems true depth))
            | .blockMapping, true, _ => do
                advance
                pure (.mapping start found.tag (← blockEntries depth))
            | _, _, _ =>
                if found.start.isSome then pure (.empty start found.tag) else failure
          register found.anchor read
          pure read

/-- The items of a block sequence: with a token at the end, unless the dashes stand below a key. -/
def blockItems (ended : Bool) : Nat → NodeReader (List Node)
  | 0 => failure
  | depth + 1 => do
      match ← accept .blockEntry with
      | some behind => do
          let ends ←
            isAt (if ended then [.blockEntry, .blockEnd] else .blockEntry :: blockEntryEnds)
          let item ← if ends then pure (.empty behind none) else node true false depth
          pure (item :: (← blockItems ended depth))
      | none => do
          if ended then
            expect .blockEnd
          pure []

/-- The entries of a block mapping. -/
def blockEntries : Nat → NodeReader (List (Node × Node))
  | 0 => failure
  | depth + 1 => do
      match ← accept .key with
      | none => do
          expect .blockEnd
          pure []
      | some behind => do
          let key ← if ← isAt blockEntryEnds then pure (.empty behind none)
            else node true true depth
          match ← accept .value with
          | some behind => do
              let value ← if ← isAt blockEntryEnds then pure (.empty behind none)
                else node true true depth
              pure ((key, value) :: (← blockEntries depth))
          | none => do
              let next ← peek
              pure ((key, .empty next.start none) :: (← blockEntries depth))

def flowValue (closing : TokenKind) : Nat → NodeReader Node
  | 0 => failure
  | depth + 1 => do
      match ← accept .value with
      | some _ => do
          if ← isAt [.flowEntry, closing] then
            pure (.empty (← peek).start none)
          else
            node false false depth
      | none => pure (.empty (← peek).start none)

/-- The items of a sequence in brackets. One that has a colon is a mapping of one entry. -/
def flowItems (first : Bool) : Nat → NodeReader (List Node)
  | 0 => failure
  | depth + 1 => do
      if (← accept .flowSequenceEnd).isSome then
        pure []
      else
        if !first then
          expect .flowEntry
        if (← accept .flowSequenceEnd).isSome then
          pure []
        else
          let start := (← peek).start
          let item ←
            match ← accept .key with
            | some _ => do
                let key ← if ← isAt [.value, .flowEntry, .flowSequenceEnd] then
                    pure (.empty (← peek).start none)
                  else node false false depth
                let value ← flowValue .flowSequenceEnd depth
                pure (.mapping start none [(key, value)])
            | none => node false false depth
          pure (item :: (← flowItems false depth))

/-- The entries of a mapping in brackets. A value on its own is a key of nothing. -/
def flowEntries (first : Bool) : Nat → NodeReader (List (Node × Node))
  | 0 => failure
  | depth + 1 => do
      if (← accept .flowMappingEnd).isSome then
        pure []
      else
        if !first then
          expect .flowEntry
        if (← accept .flowMappingEnd).isSome then
          pure []
        else
          let entry ←
            match ← accept .key with
            | some _ => do
                let key ← if ← isAt [.value, .flowEntry, .flowMappingEnd] then
                    pure (.empty (← peek).start none)
                  else node false false depth
                let value ← flowValue .flowMappingEnd depth
                pure (key, value)
            | none => do
                let key ← node false false depth
                pure (key, .empty (← peek).start none)
          pure (entry :: (← flowEntries false depth))

end

def directives (depth : Nat) : NodeReader Bool :=
  go depth false
where
  go : Nat → Bool → NodeReader Bool
    | 0, _ => failure
    | depth + 1, versioned => do
        match (← peek).kind with
        | .version major minor =>
            if versioned || major != 1 || (minor != 1 && minor != 2) then failure
            else
              advance
              let _ ← go depth true
              pure true
        | .tagHandle handle start =>
            if ((← get).handles.lookup handle).isSome then failure
            else
              modify fun s => { s with handles := (handle, start) :: s.handles }
              advance
              let _ ← go depth versioned
              pure true
        | _ => pure false

def documentEnds : Nat → NodeReader Unit
  | 0 => failure
  | depth + 1 => do
      if (← accept .documentEnd).isSome then documentEnds depth

def document (depth : Nat) : NodeReader (Option Node) := do
  if ← isAt [.streamEnd] then
    pure none
  else
    let directed ← directives depth
    let marked ← accept .documentStart
    if directed && marked.isNone then
      failure
    let token ← peek
    let value ←
      match token.kind, marked with
      | .documentEnd, some _ | .streamEnd, some _ => pure (.empty token.start none)
      | _, _ => node true false depth
    documentEnds depth
    expect .streamEnd
    pure (some value)

end NodeReader

/-- What a text holds: one document or none. Nothing comes of a text that breaks the rules or has
more documents.
-/
def read? (text : List Char) : Option (Option Node) := do
  let tokens ← tokens? text
  let (value, _) ← (NodeReader.document (2 * tokens.length + 4)).run ⟨tokens, [], []⟩
  some value

end DocSurvey.Yaml
