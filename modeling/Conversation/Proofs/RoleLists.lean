import Conversation.Proofs.LoopFolding
import Conversation.Proofs.StandaloneBranches

namespace Conversation

/-- The roles are those referred to, without repetitions and in the order of the first
references. -/
structure ListsOnce (references roles : List Role) : Prop where
  nodup : roles.Nodup
  mem_iff : ∀ role, role ∈ roles ↔ role ∈ references
  first_references : roles.Pairwise fun first second =>
    references.idxOf first < references.idxOf second

namespace ListsOnce

variable {references roles : List Role} {role : Role}

theorem nil : ListsOnce [] [] := ⟨.nil, by simp, .nil⟩

theorem first_references_concat (h : ListsOnce references roles) (role : Role) :
    roles.Pairwise fun first second =>
      (references ++ [role]).idxOf first < (references ++ [role]).idxOf second := by
  refine h.first_references.imp_of_mem ?_
  intro first second hfirst hsecond hlt
  rwa [List.idxOf_append_of_mem ((h.mem_iff first).mp hfirst),
    List.idxOf_append_of_mem ((h.mem_iff second).mp hsecond)]

theorem concat_of_mem (h : ListsOnce references roles) (hrole : role ∈ roles) :
    ListsOnce (references ++ [role]) roles where
  nodup := h.nodup
  mem_iff := by
    intro other
    rw [h.mem_iff, List.mem_append, List.mem_singleton]
    constructor
    · exact .inl
    · rintro (hother | rfl)
      · exact hother
      · exact (h.mem_iff other).mp hrole
  first_references := h.first_references_concat role

theorem concat_of_not_mem (h : ListsOnce references roles) (hrole : role ∉ roles) :
    ListsOnce (references ++ [role]) (roles ++ [role]) where
  nodup := by
    rw [List.nodup_append]
    refine ⟨h.nodup, List.nodup_singleton role, ?_⟩
    rintro other hother _ hlast rfl
    exact hrole (List.mem_singleton.mp hlast ▸ hother)
  mem_iff := by
    intro other
    rw [List.mem_append, List.mem_append, h.mem_iff]
  first_references := by
    rw [List.pairwise_append]
    refine ⟨h.first_references_concat role, List.pairwise_singleton _ _, ?_⟩
    intro other hother _ hlast
    obtain rfl := List.mem_singleton.mp hlast
    have hmem := (h.mem_iff other).mp hother
    have hnew : _ ∉ references := fun hmem => hrole ((h.mem_iff _).mpr hmem)
    rw [List.idxOf_append_of_mem hmem, List.idxOf_append_of_notMem hnew]
    exact (List.idxOf_lt_length_of_mem hmem).trans_le (Nat.le_add_right _ _)

theorem concat (h : ListsOnce references roles) (role : Role) :
    ListsOnce (references ++ [role]) (appendNew roles role) := by
  rw [appendNew]
  split
  · next hrole => exact h.concat_of_mem hrole
  · next hrole => exact h.concat_of_not_mem hrole

end ListsOnce

theorem listsOnce_foldl (references : List Role) :
    ListsOnce references (references.foldl appendNew []) := by
  induction references using List.reverseRecOn with
  | nil => exact .nil
  | append_singleton references role ih =>
      rw [List.foldl_append]
      exact ih.concat role

namespace Protocol

/-- All references of a protocol to roles: its viewpoint, the roles that it declares, and those of
its activities at all depths. -/
def references (protocol : Protocol) : List Role :=
  protocol.viewpoint.toList ++ protocol.roles ++ referencesOf true protocol.activities

theorem roles_opening (protocol : Protocol) :
    protocol.opening.roles =
      (protocol.viewpoint.toList ++ protocol.roles).foldl appendNew [] :=
  ((Build.Contributes.refl (Build.start false)).addRoles
    (protocol.viewpoint.toList ++ protocol.roles)).roles_eq

/-- A compiled automaton lists the roles of its protocol, and the automaton of every parallel branch
those of the branch without the branches nested in it. -/
theorem roles_of_compile {protocol : Protocol} {options : CompileOptions} {automaton : Automaton}
    (h : protocol.compile options = .ok automaton) :
    ListsOnce protocol.references automaton.roles ∧
      EachBranch (fun activities branch => ListsOnce (referencesOf false activities) branch.roles)
        protocol.activities automaton := by
  constructor
  · obtain ⟨-, hroles, -⟩ := consists_of_compile h
    rw [hroles, roles_opening, ← List.foldl_append]
    exact listsOnce_foldl protocol.references
  · obtain ⟨-, -, hnested⟩ := outermost_of_compile h
    refine (eachBranch_isBranch hnested).imp ?_
    intro activities branch hbranch
    have hroles : branch.roles = (referencesOf false activities).foldl appendNew [] := by
      rw [hbranch, ← contributionOf_roles options.loops (fun _ => none) activities none
        (.fresh branch.initial)]
      rfl
    rw [hroles]
    exact listsOnce_foldl (referencesOf false activities)

end Protocol

/-- The seller sees an auction whose clock is declared, and is named once more inside of it. -/
def clockedAuction : Protocol :=
  (auction.seenFrom ⟨"Seller"⟩).withRole ⟨"Clock"⟩

theorem clockedAuction_roles : ∃ automaton, clockedAuction.compile ⟨.loop⟩ = .ok automaton ∧
    automaton.roles = [⟨"Seller"⟩, ⟨"Clock"⟩, ⟨"Buyer"⟩] ∧
    ListsOnce clockedAuction.references automaton.roles ∧
      EachBranch (fun activities branch => ListsOnce (referencesOf false activities) branch.roles)
        clockedAuction.activities automaton := by
  have hok : (clockedAuction.compile ⟨.loop⟩).isOk = true := by decide +kernel
  obtain ⟨automaton, hcompile⟩ := Protocol.exists_eq_ok hok
  have hroles : (clockedAuction.compile ⟨.loop⟩).map Automaton.roles =
      .ok [⟨"Seller"⟩, ⟨"Clock"⟩, ⟨"Buyer"⟩] := by
    decide +kernel
  rw [hcompile] at hroles
  simp only [Except.map, Except.ok.injEq] at hroles
  exact ⟨automaton, hcompile, hroles, Protocol.roles_of_compile hcompile⟩

end Conversation
