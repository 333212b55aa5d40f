import Conversation.Dot
import Mathlib.Data.List.Basic

namespace Conversation.Dot

inductive Token
  | word (text : String)
  | quoted (text : String)
  | leftBrace
  | rightBrace
  | leftBracket
  | rightBracket
  | equals
  | comma
  | semicolon
  | arrow
  deriving DecidableEq, Repr

/-- What is being scanned; a token that is not complete yet is kept with what is known of it. -/
inductive Mode
  | between
  | dash
  | word (text : List Char)
  | quoted (text : List Char)
  /-- In a quoted string, behind an unpaired backslash. -/
  | escaped (text : List Char)
  deriving DecidableEq, Repr

def isWordChar (c : Char) : Bool :=
  c.isAlphanum || c = '_'

def symbol? (c : Char) : Option Token :=
  if c = '\x7b' then some .leftBrace
  else if c = '\x7d' then some .rightBrace
  else if c = '[' then some .leftBracket
  else if c = ']' then some .rightBracket
  else if c = '=' then some .equals
  else if c = ',' then some .comma
  else if c = ';' then some .semicolon
  else none

/-- Scans a character outside of all tokens. -/
def begin? (c : Char) : Option (List Token × Mode) :=
  if c = '"' then some ([], .quoted [])
  else if c = '-' then some ([], .dash)
  else if isWordChar c then some ([], .word [c])
  else if Text.isBlank c then some ([], .between)
  else (symbol? c).map fun token => ([token], .between)

/-- Scans a character; gives the tokens that are complete then. -/
def scan : Mode → Char → Option (List Token × Mode)
  | .between, c => begin? c
  | .dash, c => if c = '>' then some ([.arrow], .between) else none
  | .word text, c =>
      if isWordChar c then some ([], .word (text ++ [c]))
      else (begin? c).map fun (tokens, mode) => (.word (String.ofList text) :: tokens, mode)
  | .quoted text, c =>
      if c = '"' then some ([.quoted (String.ofList text)], .between)
      else if c = '\\' then some ([], .escaped text)
      else some ([], .quoted (text ++ [c]))
  | .escaped text, c =>
      if c = '"' ∨ c = '\\' then some ([], .quoted (text ++ [c]))
      else some ([], .quoted (text ++ ['\\', c]))

def scanAll : Mode → List Char → Option (List Token × Mode)
  | mode, [] => some ([], mode)
  | mode, c :: rest =>
      (scan mode c).bind fun (tokens, next) =>
        (scanAll next rest).map fun (others, last) => (tokens ++ others, last)

def tokenize (document : String) : Option (List Token) :=
  match scanAll .between document.toList with
  | some (tokens, .between) => some tokens
  | some (tokens, .word text) => some (tokens ++ [.word (String.ofList text)])
  | _ => none

inductive Statement
  | attribute (name value : String)
  | node (name : String) (attributes : List (String × String))
  | edge (source target : String) (attributes : List (String × String))
  | cluster (name : String) (statements : List Statement)

structure Graph where
  name : String
  statements : List Statement

def Token.text? : Token → Option String
  | .word text => some text
  | .quoted text => some text
  | _ => none

def readAttributes : List Token → Option (List (String × String))
  | [name, .equals, value, .rightBracket] =>
      name.text?.bind fun name => value.text?.map fun value => [(name, value)]
  | name :: .equals :: value :: .comma :: rest =>
      name.text?.bind fun name => value.text?.bind fun value =>
        (readAttributes rest).map fun others => (name, value) :: others
  | _ => none

def readStatement : List Token → Option Statement
  | [name, .equals, value] =>
      name.text?.bind fun name => value.text?.map fun value => .attribute name value
  | name :: .leftBracket :: rest =>
      name.text?.bind fun name => (readAttributes rest).map fun attributes => .node name attributes
  | source :: .arrow :: target :: .leftBracket :: rest =>
      source.text?.bind fun source => target.text?.bind fun target =>
        (readAttributes rest).map fun attributes => .edge source target attributes
  | _ => none

/-- How far a document is read. -/
inductive Reading
  /-- The graph and the clusters that are open, the innermost first, with what they draw so far; and
  the tokens of the statement at hand. -/
  | within (opened : List (String × List Statement)) (pending : List Token)
  | complete (graph : Graph)

namespace Reading

def endStatement : Reading → Option Reading
  | .within ((name, statements) :: outer) pending =>
      (readStatement pending).map fun statement =>
        .within ((name, statements ++ [statement]) :: outer) []
  | _ => none

def openBrace : Reading → Option Reading
  | .within [] [.word "digraph", .quoted name] => some (.within [(name, [])] [])
  | .within (inner :: outer) [.word "subgraph", .quoted name] =>
      some (.within ((name, []) :: inner :: outer) [])
  | _ => none

/-- A brace closes the innermost cluster, or the graph if no cluster is open. -/
def closeBrace : Reading → Option Reading
  | .within [(name, statements)] [] => some (.complete ⟨name, statements⟩)
  | .within ((name, statements) :: (around, others) :: outer) [] =>
      some (.within ((around, others ++ [.cluster name statements]) :: outer) [])
  | _ => none

def advance (reading : Reading) : Token → Option Reading
  | .semicolon => reading.endStatement
  | .leftBrace => reading.openBrace
  | .rightBrace => reading.closeBrace
  | token =>
      match reading with
      | .within opened pending => some (.within opened (pending ++ [token]))
      | .complete _ => none

end Reading

def readGraph (tokens : List Token) : Option Graph :=
  match tokens.foldlM Reading.advance (.within [] []) with
  | some (.complete graph) => some graph
  | _ => none

/-- Every brace is closed, and none is closed that is not open. -/
def Balanced (tokens : List Token) : Prop :=
  tokens.count .leftBrace = tokens.count .rightBrace ∧
    ∀ before, before <+: tokens → before.count .rightBrace ≤ before.count .leftBrace

namespace Reading

def depth : Reading → Nat
  | .within opened _ => opened.length
  | .complete _ => 0

theorem depth_advance {reading next : Reading} {token : Token}
    (h : reading.advance token = some next) :
    next.depth + [token].count .rightBrace = reading.depth + [token].count .leftBrace := by
  cases token with
  | leftBrace =>
      rw [advance, openBrace.eq_def] at h
      split at h <;> cases h <;> rfl
  | rightBrace =>
      rw [advance, closeBrace.eq_def] at h
      split at h <;> cases h <;> rfl
  | semicolon =>
      rw [advance, endStatement.eq_def] at h
      split at h
      · obtain ⟨statement, -, rfl⟩ := Option.map_eq_some_iff.mp h
        rfl
      · cases h
  | _ =>
      cases reading <;> cases h
      simp [depth]

theorem depth_foldlM {reading last : Reading} {tokens : List Token}
    (h : tokens.foldlM advance reading = some last) :
    last.depth + tokens.count .rightBrace = reading.depth + tokens.count .leftBrace := by
  induction tokens generalizing reading with
  | nil =>
      cases h
      simp
  | cons token rest ih =>
      rw [List.foldlM_cons] at h
      obtain ⟨next, hnext, hrest⟩ := Option.bind_eq_some_iff.mp h
      have hfirst := depth_advance hnext
      have hothers := ih hrest
      rw [← List.singleton_append, List.count_append, List.count_append]
      omega

end Reading

/-- Whatever is read as a graph has balanced braces. -/
theorem balanced_of_readGraph {tokens : List Token} {graph : Graph}
    (h : readGraph tokens = some graph) : Balanced tokens := by
  rw [readGraph] at h
  split at h
  · next closed hread =>
      have hdepth := Reading.depth_foldlM hread
      refine ⟨by simpa [Reading.depth] using hdepth.symm, ?_⟩
      rintro before ⟨after, rfl⟩
      rw [List.foldlM_append] at hread
      obtain ⟨between, hbefore, -⟩ := Option.bind_eq_some_iff.mp hread
      have hbetween := Reading.depth_foldlM hbefore
      simp only [Reading.depth, List.length_nil, Nat.zero_add] at hbetween
      omega
  · cases h

theorem scanAll_append {mode middle last : Mode} {first second : List Char}
    {tokens others : List Token} (hfirst : scanAll mode first = some (tokens, middle))
    (hsecond : scanAll middle second = some (others, last)) :
    scanAll mode (first ++ second) = some (tokens ++ others, last) := by
  induction first generalizing mode tokens with
  | nil =>
      cases hfirst
      exact hsecond
  | cons c rest ih =>
      rw [scanAll] at hfirst
      obtain ⟨⟨opening, next⟩, hscan, hfirst⟩ := Option.bind_eq_some_iff.mp hfirst
      obtain ⟨⟨inner, stop⟩, hrest, heq⟩ := Option.map_eq_some_iff.mp hfirst
      cases heq
      rw [List.cons_append, scanAll, hscan, Option.bind_some]
      simp only [ih hrest, Option.map_some, List.append_assoc]

/-- The scanning of a text takes one mode to another and completes the tokens. -/
def Scans (mode : Mode) (text : String) (tokens : List Token) (next : Mode) : Prop :=
  scanAll mode text.toList = some (tokens, next)

namespace Scans

variable {mode middle last : Mode} {first second text : String} {tokens others : List Token}

theorem append (hfirst : Scans mode first tokens middle)
    (hsecond : Scans middle second others last) :
    Scans mode (first ++ second) (tokens ++ others) last := by
  rw [Scans, String.toList_append]
  exact scanAll_append hfirst hsecond

theorem indent (depth : Nat) : Scans .between (Dot.indent depth) [] .between := by
  rw [Scans, Dot.indent, String.toList_ofList]
  induction 4 * depth with
  | zero => rfl
  | succ n ih =>
      have hblank : scanAll .between [' '] = some ([], .between) := rfl
      exact scanAll_append hblank ih

theorem scanAll_word {word : List Char} (h : ∀ c ∈ word, isWordChar c = true) (before : List Char) :
    scanAll (.word before) word = some ([], .word (before ++ word)) := by
  induction word generalizing before with
  | nil => simp [scanAll]
  | cons c rest ih =>
      obtain ⟨hc, hrest⟩ := List.forall_mem_cons.mp h
      have hscan : scanAll (.word before) [c] = some ([], .word (before ++ [c])) := by
        simp [scanAll, scan, hc]
      have hall := scanAll_append hscan (ih hrest (before ++ [c]))
      rwa [List.append_assoc] at hall

/-- A word is complete only when something else follows. -/
theorem word (hne : text.toList ≠ []) (h : ∀ c ∈ text.toList, isWordChar c = true) :
    Scans .between text [] (.word text.toList) := by
  obtain ⟨c, rest, heq⟩ := List.exists_cons_of_ne_nil hne
  rw [heq] at h
  rw [Scans, heq]
  obtain ⟨hc, hrest⟩ := List.forall_mem_cons.mp h
  have hquote : c ≠ '"' := by
    rintro rfl
    cases hc
  have hdash : c ≠ '-' := by
    rintro rfl
    cases hc
  have hscan : scanAll .between [c] = some ([], .word [c]) := by
    simp [scanAll, scan, begin?, hquote, hdash, hc]
  exact scanAll_append hscan (scanAll_word hrest [c])

/-- An escaped text is read as the text, wherever it stands in a quoted string. -/
theorem escape (text : String) (before : List Char) :
    Scans (.quoted before) (Dot.escape text) [] (.quoted (before ++ text.toList)) := by
  rw [Scans, Dot.escape, String.toList_ofList]
  induction text.toList generalizing before with
  | nil => simp [scanAll]
  | cons c rest ih =>
      have hscan : scanAll (.quoted before) (if c = '\\' ∨ c = '"' then ['\\', c] else [c]) =
          some ([], .quoted (before ++ [c])) := by
        by_cases hspecial : c = '\\' ∨ c = '"'
        · rcases hspecial with rfl | rfl <;> rfl
        · obtain ⟨hslash, hquote⟩ := not_or.mp hspecial
          simp [scanAll, scan, hslash, hquote]
      have hall := scanAll_append hscan (ih (before ++ [c]))
      rwa [List.append_assoc] at hall

example : tokenize ("\"" ++ Dot.escape "\\\"]; \x7d" ++ "\"") = some [.quoted "\\\"]; \x7d"] := by
  decide +kernel

theorem afterWord (h : Scans (.word text.toList) first (.word (String.ofList text.toList) :: tokens)
    last) : Scans (.word text.toList) first (.word text :: tokens) last := by
  rwa [String.ofList_toList] at h

theorem afterQuoted
    (h : Scans (.quoted text.toList) first (.quoted (String.ofList text.toList) :: tokens) last) :
    Scans (.quoted text.toList) first (.quoted text :: tokens) last := by
  rwa [String.ofList_toList] at h

end Scans

/-- Escaping is what two replacements do, of the backslashes first and then of the quotation
marks. -/
theorem escape_eq_replacements (text : String) :
    escape text = String.ofList
      ((text.toList.flatMap fun c => if c = '\\' then ['\\', '\\'] else [c]).flatMap
        fun c => if c = '"' then ['\\', '"'] else [c]) := by
  rw [escape, List.flatMap_assoc]
  congr 1
  refine List.flatMap_congr fun c _ => ?_
  by_cases hslash : c = '\\'
  · subst hslash
    rfl
  · by_cases hquote : c = '"' <;> simp [hslash, hquote]

theorem escape_append (first second : String) :
    escape (first ++ second) = escape first ++ escape second := by
  rw [escape, escape, escape, ← String.ofList_append, String.toList_append, List.flatMap_append]

theorem escape_eq_self {text : String} (h : ∀ c ∈ text.toList, isWordChar c = true) :
    escape text = text := by
  have hplain : ∀ c ∈ text.toList,
      (if c = '\\' ∨ c = '"' then ['\\', c] else [c]) = [c] := by
    intro c hc
    refine if_neg ?_
    rintro (rfl | rfl) <;> cases h _ hc
  rw [escape, List.flatMap_congr hplain, List.flatMap_singleton', String.ofList_toList]

/-- A text of word characters need not be escaped in a quoted string. -/
theorem Scans.plain {text : String} (h : ∀ c ∈ text.toList, isWordChar c = true)
    (before : List Char) : Scans (.quoted before) text [] (.quoted (before ++ text.toList)) := by
  have hescaped := Scans.escape text before
  rwa [escape_eq_self h] at hescaped

/-- A text tells statements: it is scanned on its own, and wherever it stands in a graph or in a
cluster, the statements are read from it. -/
def Tells (text : String) (statements : List Statement) : Prop :=
  ∃ tokens, Scans .between text tokens .between ∧
    ∀ name before outer,
      tokens.foldlM Reading.advance (.within ((name, before) :: outer) []) =
        some (.within ((name, before ++ statements) :: outer) [])

namespace Tells

variable {first second text : String} {statements others : List Statement}

theorem nil : Tells "" [] := ⟨[], rfl, fun _ _ _ => by simp⟩

theorem append (hfirst : Tells first statements) (hsecond : Tells second others) :
    Tells (first ++ second) (statements ++ others) := by
  obtain ⟨tokens, hscan, hread⟩ := hfirst
  obtain ⟨tokens', hscan', hread'⟩ := hsecond
  refine ⟨tokens ++ tokens', hscan.append hscan', fun name before outer => ?_⟩
  rw [List.foldlM_append, hread, ← List.append_assoc]
  exact hread' name _ outer

theorem join {α : Type} {line : α → String} {statement : α → Statement} (list : List α)
    (h : ∀ element, Tells (line element) [statement element]) :
    Tells (String.join (list.map line)) (list.map statement) := by
  induction list with
  | nil => exact nil
  | cons element rest ih =>
      rw [List.map_cons, List.map_cons, String.join_cons]
      exact (h element).append ih

theorem cluster {head tail name : String} (hhead : Scans .between head
      [.word "subgraph", .quoted name, .leftBrace] .between)
    (h : Tells text statements) (htail : Scans .between tail [.rightBrace] .between) :
    Tells (head ++ text ++ tail) [.cluster name statements] := by
  obtain ⟨tokens, hscan, hread⟩ := h
  refine ⟨_, (hhead.append hscan).append htail, fun around before outer => ?_⟩
  have hopen : [Token.word "subgraph", .quoted name, .leftBrace].foldlM Reading.advance
      (.within ((around, before) :: outer) []) =
        some (.within ((name, []) :: (around, before) :: outer) []) := rfl
  rw [List.foldlM_append, List.foldlM_append, hopen, Option.bind_eq_bind, Option.bind_some, hread]
  rfl

end Tells

theorem readGraph_of_tells {head tail text name : String} {statements : List Statement}
    (hhead : Scans .between head [.word "digraph", .quoted name, .leftBrace] .between)
    (h : Tells text statements) (htail : Scans .between tail [.rightBrace] .between) :
    ∃ tokens, tokenize (head ++ text ++ tail) = some tokens ∧
      readGraph tokens = some ⟨name, statements⟩ := by
  obtain ⟨tokens, hscan, hread⟩ := h
  have hall := (hhead.append hscan).append htail
  refine ⟨[.word "digraph", .quoted name, .leftBrace] ++ tokens ++ [.rightBrace], ?_, ?_⟩
  · rw [tokenize, hall]
  · have hopen : [Token.word "digraph", .quoted name, .leftBrace].foldlM Reading.advance
        (.within [] []) = some (.within [(name, [])] []) := rfl
    have hclose : [Token.rightBrace].foldlM Reading.advance (.within [(name, statements)] []) =
        some (.complete ⟨name, statements⟩) := rfl
    have hread := hread name [] []
    rw [List.nil_append] at hread
    rw [readGraph, List.foldlM_append, List.foldlM_append, hopen, Option.bind_eq_bind,
      Option.bind_some, hread, Option.bind_some, hclose]

end Conversation.Dot
