import Conversation.Yaml.Token

namespace Conversation.Yaml

mutual

inductive Node
  | broken (fault : Fault)
  | scalar (mark : Mark) (tag : Option String) (plain : Bool) (text : String)
  | sequence (mark : Mark) (items : Nodes)
  | mapping (mark : Mark) (pairs : Pairs)

inductive Nodes
  | close
  | broken (fault : Fault)
  | item (first : Node) (rest : Nodes)

inductive Pairs
  | close
  | broken (fault : Fault)
  | pair (key value : Node) (rest : Pairs)

end

mutual

def Node.fault? : Node → Option Fault
  | .broken fault => some fault
  | .scalar .. => none
  | .sequence _ items => items.fault?
  | .mapping _ pairs => pairs.fault?

def Nodes.fault? : Nodes → Option Fault
  | .close => none
  | .broken fault => some fault
  | .item first rest => first.fault?.or rest.fault?

def Pairs.fault? : Pairs → Option Fault
  | .close => none
  | .broken fault => some fault
  | .pair key value rest => (key.fault?.or value.fault?).or rest.fault?

end

def Node.empty (mark : Mark) : Node :=
  .scalar mark none true ""

/-- The tokens that are left, and the fault at which they break off. -/
structure Stream where
  tokens : List Located
  fault : Fault
  /-- What the anchors met so far stand for, the latest first. -/
  anchors : List (String × Node)

namespace Stream

def peek? (stream : Stream) : Option Located :=
  stream.tokens.head?

def next (stream : Stream) : Stream :=
  { stream with tokens := stream.tokens.tail }

def isAt (stream : Stream) (tokens : List Token) : Bool :=
  stream.peek?.any fun located => tokens.contains located.token

end Stream

/-- What has been read, and what is left unless the tokens broke off. -/
abbrev Step (α : Type) := α × Option Stream

/-- The anchor and the tag before a node, and the place of the first of them. -/
structure Properties where
  anchor : Option String
  tag : Option String
  start : Option Mark

def readProperties : (fuel : Nat) → Properties → Stream → Properties × Stream
  | 0, properties, stream => (properties, stream)
  | fuel + 1, properties, stream =>
      match stream.peek? with
      | some ⟨.anchor name, start, _⟩ =>
          if properties.anchor.isSome then (properties, stream)
          else readProperties fuel
            { properties with anchor := some name, start := properties.start.or (some start) }
            stream.next
      | some ⟨.tag name, start, _⟩ =>
          if properties.tag.isSome then (properties, stream)
          else readProperties fuel
            { properties with tag := some name, start := properties.start.or (some start) }
            stream.next
      | _ => (properties, stream)

def define (anchor : Option String) : Step Node → Step Node
  | (node, some stream) =>
      match anchor with
      | some name => (node, some { stream with anchors := (name, node) :: stream.anchors })
      | none => (node, some stream)
  | step => step

def broken (fault : Fault) : Step Node := (.broken fault, none)

/-- Where a node may stand: what kinds of blocks may begin there. -/
inductive Position
  | flow
  | block
  /-- The place of a key or value of a block: a sequence there needs no indentation. -/
  | entry
  deriving DecidableEq, Repr

def Position.reading : Position → Reading
  | .flow => .flowNode
  | _ => .blockNode

mutual

/-- Reads a node. Every step takes a token or goes one level further in, which the fuel
counts. -/
def readNode : (fuel : Nat) → Position → Stream → Step Node
  | 0, _, stream => broken stream.fault
  | fuel + 1, position, stream =>
      let (properties, stream) := readProperties 2 ⟨none, none, none⟩ stream
      match stream.peek? with
      | none => broken stream.fault
      | some ⟨token, place, _⟩ =>
          let start := properties.start.getD place
          let next := stream.next
          let sequence := fun step : Step Nodes =>
            define properties.anchor (.sequence start step.1, step.2)
          let mapping := fun step : Step Pairs =>
            define properties.anchor (.mapping start step.1, step.2)
          match token with
          | .alias name =>
              match stream.anchors.lookup name with
              | some node => (node, some next)
              | none => broken (.found .unknownAnchor place none)
          | .scalar text plain =>
              define properties.anchor (.scalar start properties.tag plain text, some next)
          | .flowSequence => sequence (readFlowItems fuel true place next)
          | .flowMapping => mapping (readFlowPairs fuel true place next)
          | token =>
              if token = .dash ∧ position = .entry then sequence (readDashes fuel stream)
              else if token = .blockSequence ∧ position ≠ .flow then
                sequence (readItems fuel place next)
              else if token = .blockMapping ∧ position ≠ .flow then
                mapping (readPairs fuel place next)
              else if properties.start.isSome then
                define properties.anchor
                  (.scalar start properties.tag properties.tag.isNone "", some stream)
              else broken (.within position.reading start .missingContent place)

def readNodeUnless : (fuel : Nat) → List Token → Mark → Position → Stream → Step Node
  | 0, _, _, _, stream => broken stream.fault
  | fuel + 1, ends, mark, position, stream =>
      if stream.isAt ends then (.empty mark, some stream)
      else readNode fuel position stream

/-- Reads on in a sequence of an indented block that begins at `start`. -/
def readItems : (fuel : Nat) → (start : Mark) → Stream → Step Nodes
  | 0, _, stream => (.broken stream.fault, none)
  | fuel + 1, start, stream =>
      match stream.peek? with
      | none => (.broken stream.fault, none)
      | some ⟨.dash, _, stop⟩ =>
          match readNodeUnless fuel [.dash, .blockEnd] stop .block stream.next with
          | (node, none) => (.item node .close, none)
          | (node, some stream) =>
              let (rest, left) := readItems fuel start stream
              (.item node rest, left)
      | some ⟨.blockEnd, _, _⟩ => (.close, some stream.next)
      | some ⟨_, place, _⟩ => (.broken (.within .blockSequence start .missingDash place), none)

def readDashes : (fuel : Nat) → Stream → Step Nodes
  | 0, stream => (.broken stream.fault, none)
  | fuel + 1, stream =>
      match stream.peek? with
      | none => (.broken stream.fault, none)
      | some ⟨.dash, _, stop⟩ =>
          match readNodeUnless fuel [.dash, .key, .value, .blockEnd] stop .block stream.next with
          | (node, none) => (.item node .close, none)
          | (node, some stream) =>
              let (rest, left) := readDashes fuel stream
              (.item node rest, left)
      | some _ => (.close, some stream)

/-- Reads on in a mapping of a block that begins at `start`. -/
def readPairs : (fuel : Nat) → (start : Mark) → Stream → Step Pairs
  | 0, _, stream => (.broken stream.fault, none)
  | fuel + 1, start, stream =>
      match stream.peek? with
      | none => (.broken stream.fault, none)
      | some ⟨.key, _, stop⟩ =>
          match readNodeUnless fuel [.key, .value, .blockEnd] stop .entry stream.next with
          | (key, none) => (.pair key (.broken stream.fault) .close, none)
          | (key, some stream) =>
              match readBlockValue fuel stream with
              | (value, none) => (.pair key value .close, none)
              | (value, some stream) =>
                  let (rest, left) := readPairs fuel start stream
                  (.pair key value rest, left)
      | some ⟨.blockEnd, _, _⟩ => (.close, some stream.next)
      | some ⟨_, place, _⟩ => (.broken (.within .blockMapping start .missingKey place), none)

def readBlockValue : (fuel : Nat) → Stream → Step Node
  | 0, stream => broken stream.fault
  | fuel + 1, stream =>
      match stream.peek? with
      | none => broken stream.fault
      | some ⟨.value, _, stop⟩ =>
          readNodeUnless fuel [.key, .value, .blockEnd] stop .entry stream.next
      | some ⟨_, place, _⟩ => (.empty place, some stream)

/-- Reads the value of a key between brackets, which some tokens end. -/
def readFlowValue : (fuel : Nat) → List Token → Stream → Step Node
  | 0, _, stream => broken stream.fault
  | fuel + 1, ends, stream =>
      match stream.peek? with
      | none => broken stream.fault
      | some ⟨.value, _, _⟩ =>
          let stream := stream.next
          match stream.peek? with
          | none => broken stream.fault
          | some ⟨_, place, _⟩ => readNodeUnless fuel ends place .flow stream
      | some ⟨_, place, _⟩ => (.empty place, some stream)

/-- Reads on in a sequence between brackets that begins at `start`; `first` before its first
item. -/
def readFlowItems : (fuel : Nat) → (first : Bool) → (start : Mark) → Stream → Step Nodes
  | 0, _, _, stream => (.broken stream.fault, none)
  | fuel + 1, first, start, stream =>
      match stream.peek? with
      | none => (.broken stream.fault, none)
      | some ⟨.flowSequenceEnd, _, _⟩ => (.close, some stream.next)
      | some ⟨token, place, _⟩ =>
          if !first && token ≠ .comma then
            (.broken (.within .flowSequence start .missingSequenceSeparator place), none)
          else
            let stream := if first then stream else stream.next
            match stream.peek? with
            | none => (.broken stream.fault, none)
            | some ⟨.flowSequenceEnd, _, _⟩ => (.close, some stream.next)
            | some ⟨token, place, _⟩ =>
                let (node, left) :=
                  if token = .key then readFlowPair fuel place stream.next
                  else readNode fuel .flow stream
                match left with
                | none => (.item node .close, none)
                | some stream =>
                    let (rest, left) := readFlowItems fuel false start stream
                    (.item node rest, left)

/-- Reads the only pair of a mapping that is an item of a sequence between brackets. -/
def readFlowPair : (fuel : Nat) → (start : Mark) → Stream → Step Node
  | 0, _, stream => broken stream.fault
  | fuel + 1, start, stream =>
      match readNodeUnless fuel [.value, .comma, .flowSequenceEnd] start .flow stream with
      | (key, none) => (.mapping start (.pair key (.broken stream.fault) .close), none)
      | (key, some stream) =>
          let (value, left) := readFlowValue fuel [.comma, .flowSequenceEnd] stream
          (.mapping start (.pair key value .close), left)

/-- Reads on in a mapping between brackets that begins at `start`; `first` before its first
pair. -/
def readFlowPairs : (fuel : Nat) → (first : Bool) → (start : Mark) → Stream → Step Pairs
  | 0, _, _, stream => (.broken stream.fault, none)
  | fuel + 1, first, start, stream =>
      match stream.peek? with
      | none => (.broken stream.fault, none)
      | some ⟨.flowMappingEnd, _, _⟩ => (.close, some stream.next)
      | some ⟨token, place, _⟩ =>
          if !first && token ≠ .comma then
            (.broken (.within .flowMapping start .missingMappingSeparator place), none)
          else
            let stream := if first then stream else stream.next
            match stream.peek? with
            | none => (.broken stream.fault, none)
            | some ⟨.flowMappingEnd, _, _⟩ => (.close, some stream.next)
            | some ⟨token, _, _⟩ =>
                let ends := [Token.comma, .flowMappingEnd]
                let (key, left) :=
                  if token = .key then
                    match stream.next.peek? with
                    | none => broken stream.fault
                    | some ⟨_, place, _⟩ =>
                        readNodeUnless fuel (.value :: ends) place .flow stream.next
                  else readNode fuel .flow stream
                match left with
                | none => (.pair key (.broken stream.fault) .close, none)
                | some stream =>
                    let (value, left) :=
                      if token = .key then readFlowValue fuel ends stream
                      else
                        match stream.peek? with
                        | none => broken stream.fault
                        | some ⟨_, place, _⟩ => (.empty place, some stream)
                    match left with
                    | none => (.pair key value .close, none)
                    | some stream =>
                        let (rest, left) := readFlowPairs fuel false start stream
                        (.pair key value rest, left)

end

/-- The first document of a text. -/
structure Document where
  root : Option Node
  /-- The fault behind the root, if the document does not end there. -/
  fault : Option Fault
  more : Bool

namespace Document

def broken (fault : Fault) : Document := ⟨some (.broken fault), none, false⟩

/-- Whether more stands behind a document. The marks of its end do not count. -/
def hasMore (tokens : List Located) : Bool :=
  match tokens.dropWhile fun located => located.token = Token.documentEnd with
  | ⟨.streamEnd, _, _⟩ :: _ => false
  | _ => true

def ofRoot : Step Node → Document
  | (node, none) => ⟨some node, none, false⟩
  | (node, some stream) =>
      match stream.peek? with
      | none => ⟨some node, some stream.fault, false⟩
      | some _ => ⟨some node, none, hasMore stream.tokens⟩

def ofMarked (fuel : Nat) (stream : Stream) : Document :=
  let ends := [Token.directive, .documentStart, .documentEnd, .streamEnd]
  match stream.peek? with
  | none => broken stream.fault
  | some ⟨_, place, _⟩ => ofRoot (readNodeUnless fuel ends place .block stream)

/-- Reads the first document of a text. Where the text stops being YAML, the tree breaks off, on all
levels. Four steps at most lead from one token to the next. -/
def ofText (text : String) : Document :=
  let (tokens, fault) := tokensOf text
  let stream : Stream :=
    ⟨tokens, fault.getD (.found .unexpectedEnd .start none), []⟩
  let fuel := 4 * tokens.length + 4
  match stream.peek? with
  | none => broken stream.fault
  | some ⟨.streamEnd, _, _⟩ => ⟨none, none, false⟩
  | some ⟨token, _, _⟩ =>
      if token = .directive ∨ token = .documentStart then
        let content := tokens.dropWhile fun located => located.token = Token.directive
        let stream := { stream with tokens := content }
        match stream.peek? with
        | none => broken stream.fault
        | some ⟨.documentStart, _, _⟩ => ofMarked fuel stream.next
        | some ⟨_, place, _⟩ => broken (.found .missingDocumentStart place none)
      else ofRoot (readNode fuel .block stream)

end Document

end Conversation.Yaml
