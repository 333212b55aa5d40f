import Conversation.Proofs.DotReading
import Conversation.Proofs.InterruptTransitions
import Conversation.Proofs.Names

namespace Conversation

namespace Dot

theorem isWordChar_of_isDigit {c : Char} (h : c.isDigit = true) : isWordChar c = true := by
  simp [isWordChar, Char.isAlphanum, h]

theorem isWordChar_decimal (n : Nat) : ∀ c ∈ (Text.decimal n).toList, isWordChar c = true := by
  intro c hc
  rw [Text.decimal, String.toList_ofList] at hc
  exact isWordChar_of_isDigit (Text.isDigit_of_mem_digits hc)

theorem isWordChar_text (state : State) : ∀ c ∈ state.text.toList, isWordChar c = true := by
  intro c hc
  rw [State.text, String.toList_append, List.mem_append] at hc
  rcases hc with hc | hc
  · obtain rfl := List.mem_singleton.mp hc
    rfl
  · exact isWordChar_decimal state c hc

theorem isWordChar_nameBy (anchors : Table State) (state : State) :
    ∀ c ∈ (Automaton.nameBy anchors state).toList, isWordChar c = true := by
  induction anchors, state using Automaton.nameBy.induct with
  | case1 anchors state anchor hfind ih =>
      rw [Automaton.nameBy_of_some hfind]
      intro c hc
      rw [String.toList_append, String.toList_append, List.mem_append, List.mem_append] at hc
      rcases hc with (hc | hc) | hc
      · exact ih c hc
      · obtain rfl := List.mem_singleton.mp hc
        rfl
      · exact isWordChar_decimal state c hc
  | case2 anchors state hfind =>
      rw [Automaton.nameBy_of_none hfind]
      exact isWordChar_text state

theorem scans_text (state : State) : Scans .between state.text [] (.word state.text.toList) := by
  refine Scans.word ?_ (isWordChar_text state)
  simp [State.text]

def nodeStatement (outermost automaton : Automaton) (state : State) : Statement :=
  .node state.text
    [("label", outermost.displayName state),
      ("shape", if state ∈ automaton.finals then "doublecircle" else "circle")]

/-- A transition is labelled with its label and, behind a blank, with its guard. -/
def edgeLabel (transition : Transition) : String :=
  transition.label.text ++
    (match transition.guard with
      | some guard => " " ++ guard.text
      | none => "")

def solidEdge (transition : Transition) : Statement :=
  .edge transition.source.text transition.target.text [("label", edgeLabel transition)]

def dashedEdge (transition : Transition) : Statement :=
  .edge transition.source.text transition.target.text
    [("label", edgeLabel transition), ("style", "dashed")]

/-- The transitions of interrupts are dashed. -/
def edgeStatement (automaton : Automaton) (transition : Transition) : Statement :=
  if automaton.interrupts.any fun interrupt => interrupt.transition = transition
  then dashedEdge transition else solidEdge transition

def clusterName (anchor : State) (index : Nat) : String :=
  "cluster_" ++ anchor.text ++ "_" ++ Text.decimal index

def branchEdge (anchor : State) (branch : Automaton) : Statement :=
  .edge anchor.text branch.initial.text [("style", "dotted")]

mutual

/-- What is drawn of an automaton: its states, its transitions, and each branch of its regions in a
cluster of its own. -/
def drawing (outermost : Automaton) : Automaton → List Statement
  | automaton@{ states, transitions, nested, .. } =>
      states.map (nodeStatement outermost automaton) ++
        transitions.map (edgeStatement automaton) ++ drawingOfRegions outermost nested

def drawingOfRegions (outermost : Automaton) : List (State × List Automaton) → List Statement
  | [] => []
  | (anchor, branches) :: rest =>
      drawingOfBranches outermost anchor 0 branches ++ drawingOfRegions outermost rest

def drawingOfBranches (outermost : Automaton) (anchor : State) :
    (index : Nat) → List Automaton → List Statement
  | _, [] => []
  | index, branch :: rest =>
      .cluster (clusterName anchor index) (drawing outermost branch) ::
        branchEdge anchor branch :: drawingOfBranches outermost anchor (index + 1) rest

end

def graph (automaton : Automaton) : Graph where
  name := automaton.name.getD "automaton"
  statements := .attribute "rankdir" "LR" :: drawing automaton automaton

section Lines

variable (outermost automaton : Automaton) (depth : Nat)

theorem tells_nodeLine (state : State) :
    Tells (nodeLine outermost automaton depth state)
      [nodeStatement outermost automaton state] := by
  rw [nodeLine, nodeStatement]
  generalize hshape : (if state ∈ automaton.finals then "doublecircle" else "circle") = shape
  have hopen : Scans (.word state.text.toList) " [label=\""
      [.word state.text, .leftBracket, .word "label", .equals] (.quoted []) := .afterWord rfl
  have hname := Scans.plain (isWordChar_nameBy outermost.anchors state) []
  have hclose : Scans (.quoted (outermost.displayName state).toList) "\", shape="
      [.quoted (outermost.displayName state), .comma, .word "shape", .equals] .between :=
    .afterQuoted rfl
  have hword : Scans .between shape [] (.word shape.toList) := by
    rw [← hshape]
    split <;> rfl
  have hend : Scans (.word shape.toList) "];\n" [.word shape, .rightBracket, .semicolon] .between :=
    .afterWord rfl
  have hline := ((((((Scans.indent depth).append (scans_text state)).append hopen).append
    hname).append hclose).append hword).append hend
  exact ⟨_, hline, fun _ _ _ => rfl⟩

theorem edgeLine_eq (transition : Transition) :
    edgeLine automaton depth transition =
      indent depth ++ transition.source.text ++ " -> " ++ transition.target.text ++ " [label=\"" ++
        escape (edgeLabel transition) ++ "\"" ++
        (if automaton.interrupts.any fun interrupt => interrupt.transition = transition
          then ", style=dashed" else "") ++ "];\n" := by
  have hblank : escape " " = " " := rfl
  have hempty : escape "" = "" := rfl
  rw [edgeLine, edgeLabel, escape_append]
  cases transition.guard with
  | none => rw [hempty]
  | some guard => rw [escape_append, hblank]

theorem scans_arrow (source target : State) :
    Scans .between (indent depth ++ source.text ++ " -> " ++ target.text)
      [.word source.text, .arrow] (.word target.text.toList) := by
  have harrow : Scans (.word source.text.toList) " -> " [.word source.text, .arrow] .between :=
    .afterWord rfl
  exact (((Scans.indent depth).append (scans_text source)).append harrow).append (scans_text target)

theorem tells_edgeLine (transition : Transition) :
    Tells (edgeLine automaton depth transition) [edgeStatement automaton transition] := by
  have hopen : Scans (.word transition.target.text.toList) " [label=\""
      [.word transition.target.text, .leftBracket, .word "label", .equals] (.quoted []) :=
    .afterWord rfl
  have hlabel := Scans.escape (edgeLabel transition) []
  have hclose : Scans (.quoted (edgeLabel transition).toList) "\"" [.quoted (edgeLabel transition)]
      .between := .afterQuoted rfl
  have hstart := (((scans_arrow depth transition.source transition.target).append hopen).append
    hlabel).append hclose
  rw [edgeLine_eq, edgeStatement]
  split
  · have hstyle : Scans .between ", style=dashed" [.comma, .word "style", .equals]
        (.word "dashed".toList) := rfl
    have hend : Scans (.word "dashed".toList) "];\n" [.word "dashed", .rightBracket, .semicolon]
        .between := rfl
    exact ⟨_, (hstart.append hstyle).append hend, fun _ _ _ => rfl⟩
  · have hnone : Scans .between "" [] .between := rfl
    have hend : Scans .between "];\n" [.rightBracket, .semicolon] .between := rfl
    exact ⟨_, (hstart.append hnone).append hend, fun _ _ _ => rfl⟩

theorem tells_branchEdge (anchor : State) (branch : Automaton) :
    Tells (indent depth ++ anchor.text ++ " -> " ++ branch.initial.text ++ " [style=dotted];\n")
      [branchEdge anchor branch] := by
  have hend : Scans (.word branch.initial.text.toList) " [style=dotted];\n"
      [.word branch.initial.text, .leftBracket, .word "style", .equals, .word "dotted",
        .rightBracket, .semicolon] .between := .afterWord rfl
  exact ⟨_, (scans_arrow depth anchor branch.initial).append hend, fun _ _ _ => rfl⟩

theorem scans_clusterHead (anchor : State) (index : Nat) :
    Scans .between (indent depth ++ "subgraph \"cluster_" ++ anchor.text ++ "_" ++
        Text.decimal index ++ "\" \x7b\n")
      [.word "subgraph", .quoted (clusterName anchor index), .leftBrace] .between := by
  have hopen : Scans .between "subgraph \"cluster_" [.word "subgraph"]
      (.quoted "cluster_".toList) := rfl
  have hanchor := Scans.plain (isWordChar_text anchor) "cluster_".toList
  have hdash : Scans (.quoted ("cluster_".toList ++ anchor.text.toList)) "_" []
      (.quoted ("cluster_".toList ++ anchor.text.toList ++ "_".toList)) := rfl
  have hindex := Scans.plain (isWordChar_decimal index)
    ("cluster_".toList ++ anchor.text.toList ++ "_".toList)
  have hname := (((((Scans.indent depth).append hopen).append hanchor).append hdash).append hindex)
  rw [← String.toList_append, ← String.toList_append, ← String.toList_append] at hname
  have hclose : Scans (.quoted (clusterName anchor index).toList) "\" \x7b\n"
      [.quoted (clusterName anchor index), .leftBrace] .between := .afterQuoted rfl
  exact hname.append hclose

end Lines

mutual

theorem tells_body (outermost : Automaton) (depth : Nat) : ∀ automaton : Automaton,
    Tells (body outermost depth automaton) (drawing outermost automaton)
  | automaton@{ states, transitions, nested, .. } => by
      rw [body, drawing]
      exact ((Tells.join states (tells_nodeLine outermost _ depth)).append
        (Tells.join transitions (tells_edgeLine _ depth))).append
          (tells_regions outermost depth nested)

theorem tells_regions (outermost : Automaton) (depth : Nat) :
    ∀ regions_ : List (State × List Automaton),
      Tells (regions outermost depth regions_) (drawingOfRegions outermost regions_)
  | [] => .nil
  | (anchor, branches) :: rest => by
      rw [regions, drawingOfRegions]
      exact (tells_clusters outermost depth anchor 0 branches).append
        (tells_regions outermost depth rest)

theorem tells_clusters (outermost : Automaton) (depth : Nat) (anchor : State) :
    ∀ (index : Nat) (branches : List Automaton),
      Tells (clusters outermost depth anchor index branches)
        (drawingOfBranches outermost anchor index branches)
  | _, [] => .nil
  | index, branch :: rest => by
      rw [clusters, drawingOfBranches]
      have htail : Scans .between (indent depth ++ "\x7d\n") [.rightBrace] .between :=
        (Scans.indent depth).append (show Scans .between "\x7d\n" [.rightBrace] .between from rfl)
      have hcluster := Tells.cluster (scans_clusterHead depth anchor index)
        (tells_body outermost (depth + 1) branch) htail
      have hall := (hcluster.append (tells_branchEdge depth anchor branch)).append
        (tells_clusters outermost depth anchor (index + 1) rest)
      simpa only [String.append_assoc, List.cons_append, List.nil_append] using hall

end

/-- The document of an automaton has balanced braces, and it is read as the graph of the
automaton. -/
theorem render_reads (automaton : Automaton) :
    ∃ tokens, tokenize (render automaton) = some tokens ∧ Balanced tokens ∧
      readGraph tokens = some (graph automaton) := by
  have hopen : Scans .between "digraph \"" [.word "digraph"] (.quoted []) := rfl
  have hname := Scans.escape (automaton.name.getD "automaton") []
  have hclose : Scans (.quoted (automaton.name.getD "automaton").toList) "\" \x7b\n"
      [.quoted (automaton.name.getD "automaton"), .leftBrace] .between := .afterQuoted rfl
  have hdirection : Tells "    rankdir=LR;\n" [.attribute "rankdir" "LR"] :=
    ⟨[.word "rankdir", .equals, .word "LR", .semicolon], rfl, fun _ _ _ => rfl⟩
  have hend : Scans .between "\x7d" [.rightBrace] .between := rfl
  obtain ⟨tokens, htokens, hgraph⟩ := readGraph_of_tells ((hopen.append hname).append hclose)
    (hdirection.append (tells_body automaton 1 automaton)) hend
  refine ⟨tokens, ?_, balanced_of_readGraph hgraph, hgraph⟩
  rw [← htokens, render]
  have hsplit : "\" \x7b\n    rankdir=LR;\n" = "\" \x7b\n" ++ "    rankdir=LR;\n" := rfl
  rw [hsplit]
  simp only [String.append_assoc]

mutual

/-- A statement and, if it is a cluster, all statements in it, at any depth. -/
def Statement.within : Statement → List Statement
  | .cluster name statements => .cluster name statements :: withinAll statements
  | statement => [statement]

def withinAll : List Statement → List Statement
  | [] => []
  | statement :: rest => statement.within ++ withinAll rest

end

def Statement.clusterName? : Statement → Option String
  | .cluster name _ => some name
  | _ => none

def Statement.isDashed : Statement → Bool
  | .edge _ _ attributes => ("style", "dashed") ∈ attributes
  | _ => false

theorem withinAll_append (first second : List Statement) :
    withinAll (first ++ second) = withinAll first ++ withinAll second := by
  induction first with
  | nil => rfl
  | cons statement rest ih => rw [List.cons_append, withinAll, withinAll, ih, List.append_assoc]

theorem withinAll_map {α : Type} {statement : α → Statement}
    (h : ∀ element, (statement element).within = [statement element]) (list : List α) :
    withinAll (list.map statement) = list.map statement := by
  induction list with
  | nil => rfl
  | cons element rest ih => rw [List.map_cons, withinAll, h, ih, List.singleton_append]

theorem append_append_perm {α : Type} (first second third fourth : List α) :
    ((first ++ second) ++ (third ++ fourth)).Perm ((first ++ third) ++ (second ++ fourth)) := by
  rw [List.append_assoc, List.append_assoc]
  exact (List.perm_append_comm_assoc second third fourth).append_left first

theorem within_edgeStatement (automaton : Automaton) (transition : Transition) :
    (edgeStatement automaton transition).within = [edgeStatement automaton transition] := by
  rw [edgeStatement]
  split <;> rfl

mutual

/-- A drawing has the drawings of all members of the family in it, each in its place. -/
theorem withinAll_drawing_perm (outermost : Automaton) : ∀ automaton : Automaton,
    (withinAll (drawing outermost automaton)).Perm (automaton.family.flatMap (drawing outermost))
  | automaton@{ states, transitions, nested, .. } => by
      have hregions := withinAll_regions_perm outermost nested
      rw [Automaton.family, List.flatMap_cons, drawing, withinAll_append, withinAll_append,
        withinAll_map (fun _ => rfl), withinAll_map (within_edgeStatement _),
        List.append_assoc _ _ (List.flatMap _ _)]
      exact hregions.append_left _

theorem withinAll_regions_perm (outermost : Automaton) :
    ∀ regions : List (State × List Automaton),
      (withinAll (drawingOfRegions outermost regions)).Perm
        (drawingOfRegions outermost regions ++
          (Automaton.familyOfRegions regions).flatMap (drawing outermost))
  | [] => .refl _
  | (anchor, branches) :: rest => by
      have hbranches := withinAll_branches_perm outermost anchor 0 branches
      have hrest := withinAll_regions_perm outermost rest
      rw [drawingOfRegions, Automaton.familyOfRegions, withinAll_append, List.flatMap_append]
      exact (hbranches.append hrest).trans (append_append_perm _ _ _ _)

theorem withinAll_branches_perm (outermost : Automaton) (anchor : State) :
    ∀ (index : Nat) (branches : List Automaton),
      (withinAll (drawingOfBranches outermost anchor index branches)).Perm
        (drawingOfBranches outermost anchor index branches ++
          (Automaton.familyOfBranches branches).flatMap (drawing outermost))
  | _, [] => .refl _
  | index, branch :: rest => by
      have hbranch := withinAll_drawing_perm outermost branch
      have hrest := (withinAll_branches_perm outermost anchor (index + 1) rest).append_left
        [branchEdge anchor branch]
      rw [← List.append_assoc] at hrest
      rw [Automaton.familyOfBranches, List.flatMap_append]
      exact ((hbranch.append_left [_]).append hrest).trans (append_append_perm _ _ _ _)

end

theorem clusterName_inj {anchor anchor' : State} {index index' : Nat}
    (h : clusterName anchor index = clusterName anchor' index') :
    anchor = anchor' ∧ index = index' := by
  have hlists : "cluster_s".toList ++ Text.digits 10 anchor ++ '_' :: Text.digits 10 index =
      "cluster_s".toList ++ Text.digits 10 anchor' ++ '_' :: Text.digits 10 index' := by
    simpa [clusterName, State.text, Text.decimal] using congrArg String.toList h
  obtain rfl := Text.numeral_inj rfl rfl hlists
  exact ⟨Text.digits_inj (List.append_cancel_left (List.append_cancel_right hlists)), rfl⟩

theorem clusterNames_branches (outermost : Automaton) (anchor : State) (index : Nat)
    (branches : List Automaton) :
    (drawingOfBranches outermost anchor index branches).filterMap Statement.clusterName? =
      (List.range' index branches.length).map (clusterName anchor) := by
  induction branches generalizing index with
  | nil => rfl
  | cons branch rest ih =>
      rw [drawingOfBranches, List.length_cons, List.range'_succ, List.map_cons, ← ih (index + 1)]
      rfl

theorem clusterNames_regions (outermost : Automaton) (regions : List (State × List Automaton)) :
    (drawingOfRegions outermost regions).filterMap Statement.clusterName? =
      regions.flatMap fun region =>
        (List.range' 0 region.2.length).map (clusterName region.1) := by
  induction regions with
  | nil => rfl
  | cons region rest ih =>
      rw [drawingOfRegions, List.filterMap_append, clusterNames_branches, ih, List.flatMap_cons]

theorem filterMap_map_eq_nil {α : Type} {statement : α → Statement}
    (h : ∀ element, (statement element).clusterName? = none) (list : List α) :
    (list.map statement).filterMap Statement.clusterName? = [] := by
  rw [List.filterMap_map, List.filterMap_eq_nil_iff]
  exact fun element _ => h element

theorem clusterNames_drawing (outermost automaton : Automaton) :
    (drawing outermost automaton).filterMap Statement.clusterName? =
      automaton.nested.flatMap fun region =>
        (List.range' 0 region.2.length).map (clusterName region.1) := by
  have hedge : ∀ transition, (edgeStatement automaton transition).clusterName? = none := by
    intro transition
    rw [edgeStatement]
    split <;> rfl
  cases automaton
  rw [drawing, List.filterMap_append, List.filterMap_append, filterMap_map_eq_nil (fun _ => rfl),
    filterMap_map_eq_nil hedge, clusterNames_regions]
  rfl

theorem exists_of_mem_clusterNames {outermost automaton : Automaton} {name : String}
    (h : name ∈ (drawing outermost automaton).filterMap Statement.clusterName?) :
    ∃ region ∈ automaton.nested, ∃ index, clusterName region.1 index = name := by
  rw [clusterNames_drawing] at h
  obtain ⟨region, hregion, hname⟩ := List.mem_flatMap.mp h
  obtain ⟨index, -, heq⟩ := List.mem_map.mp hname
  exact ⟨region, hregion, index, heq⟩

theorem clusterNames_nodup {automaton : Automaton} (outermost : Automaton)
    (hnodup : automaton.allStates.Nodup)
    (hown : ∀ member ∈ automaton.family, ∀ region ∈ member.nested, region.1 ∈ member.states)
    (hascending : ∀ member ∈ automaton.family, (member.nested.map Prod.fst).Pairwise (· < ·)) :
    ((withinAll (drawing outermost automaton)).filterMap Statement.clusterName?).Nodup := by
  have hperm := (withinAll_drawing_perm outermost automaton).filterMap Statement.clusterName?
  rw [hperm.nodup_iff, List.filterMap_flatMap, List.nodup_flatMap]
  constructor
  · intro member hmember
    rw [clusterNames_drawing, List.nodup_flatMap]
    constructor
    · intro region _
      exact (List.nodup_range' ..).map fun _ _ h => (clusterName_inj h).2
    · refine (List.pairwise_map.mp (hascending member hmember)).imp ?_
      intro region region' hlt name hname hname'
      obtain ⟨index, -, rfl⟩ := List.mem_map.mp hname
      obtain ⟨index', -, heq⟩ := List.mem_map.mp hname'
      exact ne_of_lt hlt (clusterName_inj heq).1.symm
  · refine (List.nodup_flatMap.mp hnodup).2.imp_of_mem ?_
    intro member member' hmember hmember' hapart name hname hname'
    obtain ⟨region, hregion, index, rfl⟩ := exists_of_mem_clusterNames hname
    obtain ⟨region', hregion', index', heq⟩ := exists_of_mem_clusterNames hname'
    have hstate := hown member' hmember' region' hregion'
    rw [(clusterName_inj heq).1] at hstate
    exact hapart (hown member hmember region hregion) hstate

theorem filter_isDashed_regions (outermost : Automaton) (regions : List (State × List Automaton)) :
    (drawingOfRegions outermost regions).filter Statement.isDashed = [] := by
  have hbranches : ∀ (anchor : State) (index : Nat) (branches : List Automaton),
      (drawingOfBranches outermost anchor index branches).filter Statement.isDashed = [] := by
    intro anchor index branches
    induction branches generalizing index with
    | nil => rfl
    | cons branch rest ih => exact ih (index + 1)
  induction regions with
  | nil => rfl
  | cons region rest ih =>
      rw [drawingOfRegions, List.filter_append, hbranches, ih]
      rfl

/-- The dashed edges of an automaton are those of the transitions that interrupts have. -/
theorem filter_isDashed_drawing (outermost automaton : Automaton) :
    (drawing outermost automaton).filter Statement.isDashed =
      (automaton.transitions.filter fun transition =>
        automaton.interrupts.any fun interrupt => interrupt.transition = transition).map
          dashedEdge := by
  have hnodes : (automaton.states.map (nodeStatement outermost automaton)).filter
      Statement.isDashed = [] := by
    rw [List.filter_map]
    simp [Function.comp_def, nodeStatement, Statement.isDashed]
  have hdashed : Statement.isDashed ∘ edgeStatement automaton = fun transition =>
      automaton.interrupts.any fun interrupt => interrupt.transition = transition := by
    funext transition
    rw [Function.comp_apply, edgeStatement]
    split
    · next hany => rw [hany]; rfl
    · next hnone => rw [Bool.eq_false_of_not_eq_true hnone]; rfl
  have hedges : (automaton.transitions.map (edgeStatement automaton)).filter Statement.isDashed =
      (automaton.transitions.filter fun transition =>
        automaton.interrupts.any fun interrupt => interrupt.transition = transition).map
          dashedEdge := by
    rw [List.filter_map, hdashed]
    refine List.map_congr_left fun transition htransition => ?_
    rw [edgeStatement, if_pos (List.mem_filter.mp htransition).2]
  cases automaton
  rw [drawing, List.filter_append, List.filter_append, filter_isDashed_regions, List.append_nil]
  exact (congrArg (· ++ _) hnodes).trans hedges

end Dot

/-- What the document of an automaton draws under a name. -/
structure Automaton.DrawnAs (automaton : Automaton) (name : String) : Prop where
  /-- The braces are balanced, and all of the drawing is read, and nothing else. -/
  reads : ∃ tokens, Dot.tokenize (Dot.render automaton) = some tokens ∧ Dot.Balanced tokens ∧
    Dot.readGraph tokens =
      some ⟨name, .attribute "rankdir" "LR" :: Dot.drawing automaton automaton⟩
  clusters_apart : ((Dot.withinAll (Dot.drawing automaton automaton)).filterMap
    Dot.Statement.clusterName?).Nodup
  /-- In what is drawn of a member of the family itself, the dashed edges are its interrupts. -/
  dashed : ∀ member ∈ automaton.family,
    (Dot.drawing automaton member).filter Dot.Statement.isDashed =
      member.interrupts.map fun interrupt => Dot.dashedEdge interrupt.transition
  dashed_overall :
    ((Dot.withinAll (Dot.drawing automaton automaton)).filter Dot.Statement.isDashed).Perm
      (automaton.family.flatMap fun member =>
        member.interrupts.map fun interrupt => Dot.dashedEdge interrupt.transition)

namespace Protocol

variable {protocol : Protocol} {options : CompileOptions} {automaton : Automaton}

theorem filter_isDashed_of_compile (h : protocol.compile options = .ok automaton) :
    ∀ member ∈ automaton.family,
      (Dot.drawing automaton member).filter Dot.Statement.isDashed =
        member.interrupts.map fun interrupt => Dot.dashedEdge interrupt.transition := by
  intro member hmember
  obtain ⟨next, hcoherent⟩ := coherent_of_mem_family h member hmember
  have hsublist := interrupts_sublist_of_compile h member hmember
  rw [Dot.filter_isDashed_drawing, hcoherent.filter_interrupts_eq hsublist, List.map_map]
  rfl

/-- The document of a compiled automaton draws it under the name of the protocol. -/
theorem document_of_compile (h : protocol.compile options = .ok automaton) :
    automaton.DrawnAs protocol.name := by
  have hcoherent := coherent_of_mem_family h
  have hdashed := filter_isDashed_of_compile h
  refine { reads := ?_, clusters_apart := ?_, dashed := hdashed, dashed_overall := ?_ }
  · obtain ⟨_, -, -, hautomaton⟩ := exists_run_of_compile h
    have hname : automaton.name = some protocol.name := by rw [hautomaton]
    obtain ⟨tokens, htokens, hbalanced, hgraph⟩ := Dot.render_reads automaton
    rw [Dot.graph, hname] at hgraph
    exact ⟨tokens, htokens, hbalanced, hgraph⟩
  · refine Dot.clusterNames_nodup automaton (nodup_allStates_of_compile h) ?_ ?_
    · intro member hmember
      obtain ⟨_, hmemberCoherent⟩ := hcoherent member hmember
      exact hmemberCoherent.nested_own
    · intro member hmember
      obtain ⟨_, hmemberCoherent⟩ := hcoherent member hmember
      exact hmemberCoherent.nested_ascending
  · have hperm := Dot.withinAll_drawing_perm automaton automaton
    refine (hperm.filter Dot.Statement.isDashed).trans (.of_eq ?_)
    rw [List.filter_flatMap]
    exact List.flatMap_congr hdashed

end Protocol

/-- Quotation marks, backslashes and braces in all texts, in a region that an interrupt leaves. -/
def quotations : Protocol :=
  .bare "\"\x7d"
    [.escape
      [.parallel
        [[.interaction
            ((Interaction.bare .receive (some "\\") ⟨"\\\""⟩).withAssertion "\"];\x7d\x7b")],
          [.interaction (.bare .receive (some "\x7b") ⟨"A"⟩)]]]
      ⟨"\"C\""⟩ [.interaction (.bare .receive (some "\\\"stop") ⟨"\"C\""⟩)]]

theorem quotations_document : ∃ automaton, quotations.compile ⟨.loop⟩ = .ok automaton ∧
    automaton.DrawnAs quotations.name := by
  have hok : (quotations.compile ⟨.loop⟩).isOk = true := by decide +kernel
  obtain ⟨automaton, hcompile⟩ := Protocol.exists_eq_ok hok
  exact ⟨automaton, hcompile, Protocol.document_of_compile hcompile⟩

end Conversation
