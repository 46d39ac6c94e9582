import MeshLog.Proofs.Registry.Built
import MeshLog.Proofs.Registry.HeaderLine

/-!
# Discovered registries

The registry of a header section is a matter of the lines before the first terminator: their first
root and the other nodes in the order of the lines, or, if no root is announced, as many nodes as
lines were counted (`discover_of_header`). So a header that is written for some nodes, with other
lines in between and anything behind its terminator, gives these nodes.
-/

namespace MeshLog

namespace HeaderLine

/-- The root that a line announces. -/
def root? : HeaderLine → Option (Nat × Text)
  | .node true (some id) address => some (id, address)
  | _ => none

/-- The other node that a line announces. -/
def nonRoot? : HeaderLine → Option (Nat × Text)
  | .node false (some id) address => some (id, address)
  | _ => none

end HeaderLine

/-- What the lines before the first terminator contribute. -/
def headerLines (lines : List Text) : List HeaderLine :=
  (lines.map HeaderLine.ofText).takeWhile (· ≠ .terminator)

theorem headerLines_cons_of_eq {line : Text} (h : HeaderLine.ofText line = .terminator)
    (rest : List Text) : headerLines (line :: rest) = [] :=
  List.takeWhile_cons_of_neg (by simp [h])

theorem headerLines_cons_of_ne {line : Text} (h : HeaderLine.ofText line ≠ .terminator)
    (rest : List Text) : headerLines (line :: rest) = HeaderLine.ofText line :: headerLines rest :=
  List.takeWhile_cons_of_pos (decide_eq_true h)

theorem headerLines_append_terminator {terminator : Text}
    (h : HeaderLine.ofText terminator = .terminator) (lines garbage : List Text) :
    headerLines (lines ++ terminator :: garbage) = headerLines lines := by
  induction lines with
  | nil => exact headerLines_cons_of_eq h garbage
  | cons line rest ih =>
    rw [List.cons_append]
    by_cases hline : HeaderLine.ofText line = .terminator
    · rw [headerLines_cons_of_eq hline, headerLines_cons_of_eq hline]
    · rw [headerLines_cons_of_ne hline, headerLines_cons_of_ne hline, ih]

/-! ## Reading a header -/

namespace Header

/-- The header of some roots, of which there may be one, other nodes and counted lines. -/
def ofRoots (roots nonRoot : List (Nat × Text)) (counted : Nat) : Except RegistryError Header :=
  match roots with
  | first :: second :: _ => .error (.duplicateRoot first.1 second.1)
  | roots => .ok ⟨roots.head?, nonRoot, counted⟩

/-- Reading on, the nodes of the lines are added to those of the header. -/
theorem readFrom_eq_ofRoots (header : Header) (lines : List Text) :
    header.readFrom lines =
      ofRoots (header.root?.toList ++ (headerLines lines).filterMap HeaderLine.root?)
        (header.nonRoot ++ (headerLines lines).filterMap HeaderLine.nonRoot?)
        (header.counted + (headerLines lines).count .counted) := by
  have hend : ∀ header : Header, .ok header =
      ofRoots (header.root?.toList ++ []) (header.nonRoot ++ []) (header.counted + 0) := by
    rintro ⟨root?, nonRoot, counted⟩
    cases root? <;> simp [ofRoots]
  induction lines generalizing header with
  | nil => exact hend header
  | cons line rest ih =>
    by_cases hterminator : HeaderLine.ofText line = .terminator
    · rw [readFrom, hterminator, headerLines_cons_of_eq hterminator]
      exact hend header
    · rw [readFrom, headerLines_cons_of_ne hterminator]
      cases hkind : HeaderLine.ofText line with
      | terminator => exact absurd hkind hterminator
      | counted =>
        dsimp only
        rw [ih, List.filterMap_cons_none rfl, List.filterMap_cons_none rfl, List.count_cons_self,
          Nat.add_assoc, Nat.add_comm 1]
      | other =>
        dsimp only
        rw [ih, List.filterMap_cons_none rfl, List.filterMap_cons_none rfl,
          List.count_cons_of_ne (by decide)]
      | node root id? address =>
        rw [List.count_cons_of_ne HeaderLine.noConfusion]
        cases id? with
        | none =>
          rw [List.filterMap_cons_none (by cases root <;> rfl),
            List.filterMap_cons_none (by cases root <;> rfl)]
          cases root <;> exact ih header
        | some id =>
          cases root with
          | false =>
            have hnode : HeaderLine.nonRoot? (.node false (some id) address) =
                some (id, address) := rfl
            dsimp only
            rw [ih, List.filterMap_cons_none rfl, List.filterMap_cons_some hnode, List.append_assoc,
              List.singleton_append]
          | true =>
            have hnode : HeaderLine.root? (.node true (some id) address) = some (id, address) := rfl
            rw [List.filterMap_cons_some hnode, List.filterMap_cons_none rfl]
            cases hroot : header.root? with
            | none =>
              dsimp only
              rw [ih]
              rfl
            | some first => rfl

end Header

/-! ## Nodes of registries -/

namespace Registry

theorem nodes_ofNodes (root : RegisteredNode) (nonRoot : List RegisteredNode) :
    (ofNodes root nonRoot).nodes = root :: nonRoot := by
  have hfold : ∀ registry : Registry,
      (nonRoot.foldl (fun registry node => registry.addNonRoot node.id node.address?)
        registry).nodes = registry.nodes ++ nonRoot := by
    induction nonRoot with
    | nil => exact fun registry => (List.append_nil _).symm
    | cons node rest ih =>
      intro registry
      rw [List.foldl_cons, ih]
      show (registry.root :: (registry.nonRoot ++ [node])) ++ rest = _
      rw [← List.cons_append, List.append_assoc, List.singleton_append]
      rfl
  exact hfold _

/-- The nodes of a header that only counts them. -/
def numbered (count : Nat) : List RegisteredNode := (List.range count).map fun k => ⟨k + 1, none⟩

theorem numbered_succ (count : Nat) :
    numbered (count + 1) = ⟨1, none⟩ :: (List.range count).map fun k => ⟨k + 2, none⟩ := by
  unfold numbered
  rw [List.range_succ_eq_map, List.map_cons, List.map_map]
  rfl

theorem indexOfId_of_numbered {registry : Registry} {count id : Nat} (hkept : registry.Kept)
    (h : registry.nodes = numbered count) (hpos : 1 ≤ id) (hle : id ≤ count) :
    registry.indexOfId id = .ok (id - 1) := by
  rw [indexOfId_eq_ok, hkept.ids, h, List.findIdx?_eq_some_iff_getElem]
  unfold numbered
  refine ⟨by rw [List.length_map, List.length_range]; omega, ?_, fun j hj => ?_⟩
  · rw [List.getElem_map, List.getElem_range, beq_iff_eq]
    exact Nat.sub_add_cancel hpos
  · rw [List.getElem_map, List.getElem_range, beq_iff_eq]
    exact fun heq => absurd (Nat.eq_sub_of_add_eq heq) (Nat.ne_of_lt hj)

/-- The node of a record. -/
def nodeOf (record : Nat × Text) : RegisteredNode := ⟨record.1, some record.2⟩

section Discover

variable {lines : List Text}

theorem discover_eq (lines : List Text) : discover lines =
    (Header.ofRoots ((headerLines lines).filterMap HeaderLine.root?)
      ((headerLines lines).filterMap HeaderLine.nonRoot?)
      ((headerLines lines).count .counted)).bind Header.registry := by
  unfold discover
  rw [Header.readFrom_eq_ofRoots]
  simp only [Header.empty, Option.toList_none, List.nil_append, Nat.zero_add]
  rfl

theorem discover_of_one_root {root : Nat × Text}
    (h : (headerLines lines).filterMap HeaderLine.root? = [root]) :
    discover lines = .ok (.ofNodes (nodeOf root)
      (((headerLines lines).filterMap HeaderLine.nonRoot?).map nodeOf)) := by
  rw [discover_eq, h]
  rfl

theorem discover_of_counted (h : (headerLines lines).filterMap HeaderLine.root? = [])
    (hcounted : 0 < (headerLines lines).count .counted) :
    ∃ registry, discover lines = .ok registry ∧
      registry.nodes = numbered ((headerLines lines).count .counted) := by
  obtain ⟨n, hn⟩ := Nat.exists_eq_add_of_lt hcounted
  rw [Nat.zero_add] at hn
  rw [discover_eq, h, hn, numbered_succ]
  exact ⟨_, rfl, nodes_ofNodes _ _⟩

theorem discover_of_nothing (h : (headerLines lines).filterMap HeaderLine.root? = [])
    (hcounted : (headerLines lines).count .counted = 0) : discover lines = .error .noRoot := by
  rw [discover_eq, h, hcounted]
  rfl

theorem discover_eq_duplicateRoot_iff {first second : Nat} :
    discover lines = .error (.duplicateRoot first second) ↔
      ∃ a b rest, (headerLines lines).filterMap HeaderLine.root? = a :: b :: rest ∧
        first = a.1 ∧ second = b.1 := by
  constructor
  · intro h
    match hroots : (headerLines lines).filterMap HeaderLine.root? with
    | [] =>
      rcases Nat.eq_zero_or_pos ((headerLines lines).count .counted) with hzero | hpos
      · rw [discover_of_nothing hroots hzero] at h
        cases h
      · obtain ⟨registry, hregistry, -⟩ := discover_of_counted hroots hpos
        rw [hregistry] at h
        cases h
    | [root] =>
      rw [discover_of_one_root hroots] at h
      cases h
    | a :: b :: rest =>
      rw [discover_eq, hroots] at h
      cases h
      exact ⟨a, b, rest, rfl, rfl, rfl⟩
  · rintro ⟨a, b, rest, hroots, rfl, rfl⟩
    rw [discover_eq, hroots]
    rfl

end Discover

end Registry

/-! ## Written headers -/

open HeaderLine in
/-- Lines that announce some roots and other nodes, in this order: their records, behind texts
without a mark of records, and lines without marks of headers anywhere between them. -/
inductive Announces : List Text → List (Nat × Text) → List (Nat × Text) → Prop
  | nil : Announces [] [] []
  | noise {line : Text} {lines : List Text} {roots others : List (Nat × Text)}
      (hmark : ¬ nodeMark <:+: line) (htag : Text.tag line ≠ countTag)
      (h : Announces lines roots others) : Announces (line :: lines) roots others
  | root {line before address : Text} {id : Nat} {lines : List Text}
      {roots others : List (Nat × Text)}
      (hline : line = before ++ recordLine "root ".toList id address)
      (hbefore : ¬ nodeMark <:+: before) (hnode : Writable id address)
      (h : Announces lines roots others) :
      Announces (line :: lines) ((id, address) :: roots) others
  | nonRoot {line before role address : Text} {id : Nat} {lines : List Text}
      {roots others : List (Nat × Text)}
      (hline : line = before ++ recordLine role id address)
      (hbefore : ¬ nodeMark <:+: before) (hrole : (role, false) ∈ roles)
      (hnode : Writable id address) (h : Announces lines roots others) :
      Announces (line :: lines) roots ((id, address) :: others)

theorem mem_roles_root : ("root ".toList, true) ∈ HeaderLine.roles := List.mem_cons_self ..

theorem Announces.records {lines : List Text} {roots others : List (Nat × Text)}
    (h : Announces lines roots others) :
    (headerLines lines).filterMap HeaderLine.root? = roots ∧
      (headerLines lines).filterMap HeaderLine.nonRoot? = others := by
  induction h with
  | nil => exact ⟨rfl, rfl⟩
  | noise hmark htag h ih =>
    have hkind := HeaderLine.ofText_noise hmark htag
    rw [headerLines_cons_of_ne (by rw [hkind]; exact HeaderLine.noConfusion), hkind]
    exact ih
  | root hline hbefore hnode h ih =>
    subst hline
    have hkind := HeaderLine.ofText_recordLine hbefore mem_roles_root hnode
    rw [headerLines_cons_of_ne (by rw [hkind]; exact HeaderLine.noConfusion), hkind]
    exact ⟨congrArg _ ih.1, ih.2⟩
  | nonRoot hline hbefore hrole hnode h ih =>
    subst hline
    have hkind := HeaderLine.ofText_recordLine hbefore hrole hnode
    rw [headerLines_cons_of_ne (by rw [hkind]; exact HeaderLine.noConfusion), hkind]
    exact ⟨ih.1, congrArg _ ih.2⟩

/-- Every line contributes a leftmost node record, the terminator of the records, a counted line or
its terminator, or nothing, in this order, and what stands behind the first terminator does not
matter. Two roots are an error that names the first two; one root is the first node, before the
other ones in the order of their lines; without a root, as many nodes as lines were counted are
numbered from one. So what is written for a root and other nodes is discovered again. -/
theorem discover_of_header :
    (∀ line kind, HeaderLine.ofText line = kind ↔ HeaderLine.Reads line kind) ∧
    (∀ lines terminator garbage, HeaderLine.Reads terminator .terminator →
      Registry.discover (lines ++ terminator :: garbage) = Registry.discover lines) ∧
    (∀ lines,
      let roots := (headerLines lines).filterMap HeaderLine.root?
      let others := (headerLines lines).filterMap HeaderLine.nonRoot?
      let counted := (headerLines lines).count .counted
      (∀ first second, Registry.discover lines = .error (.duplicateRoot first second) ↔
        ∃ a b rest, roots = a :: b :: rest ∧ first = a.1 ∧ second = b.1) ∧
      (∀ root, roots = [root] →
        let registry := Registry.ofNodes (Registry.nodeOf root) (others.map Registry.nodeOf)
        Registry.discover lines = .ok registry ∧
          registry.nodes = Registry.nodeOf root :: others.map Registry.nodeOf) ∧
      (roots = [] → 0 < counted → ∃ registry, Registry.discover lines = .ok registry ∧
        registry.nodes = (List.range counted).map (fun k => ⟨k + 1, none⟩) ∧
        ∀ id, 1 ≤ id → id ≤ counted → registry.indexOfId id = .ok (id - 1)) ∧
      (roots = [] → counted = 0 → Registry.discover lines = .error .noRoot)) ∧
    ∀ lines root others terminator before garbage, Announces lines [root] others →
      terminator = before ++ HeaderLine.terminatorLine → ¬ HeaderLine.nodeMark <:+: before →
      let registry := Registry.ofNodes (Registry.nodeOf root) (others.map Registry.nodeOf)
      Registry.discover (lines ++ terminator :: garbage) = .ok registry ∧
        registry.nodes = Registry.nodeOf root :: others.map Registry.nodeOf := by
  have hend : ∀ lines terminator garbage, HeaderLine.ofText terminator = .terminator →
      Registry.discover (lines ++ terminator :: garbage) = Registry.discover lines := by
    intro lines terminator garbage h
    rw [Registry.discover_eq, headerLines_append_terminator h, ← Registry.discover_eq]
  refine ⟨fun line kind => HeaderLine.ofText_eq_iff, fun lines terminator garbage h =>
    hend lines terminator garbage (HeaderLine.ofText_of_reads h), fun lines => ⟨fun first second =>
      Registry.discover_eq_duplicateRoot_iff, fun root h => ?_, fun h hcounted => ?_,
      Registry.discover_of_nothing⟩, fun lines root others terminator before garbage h hline
      hbefore => ?_⟩
  · exact ⟨Registry.discover_of_one_root h, Registry.nodes_ofNodes _ _⟩
  · obtain ⟨registry, hregistry, hnodes⟩ := Registry.discover_of_counted h hcounted
    exact ⟨registry, hregistry, hnodes,
      fun id hpos hle => Registry.indexOfId_of_numbered (.discovered hregistry) hnodes hpos hle⟩
  · obtain ⟨hroots, hothers⟩ := h.records
    refine ⟨?_, Registry.nodes_ofNodes _ _⟩
    rw [hend _ _ _ (hline ▸ HeaderLine.ofText_terminatorLine hbefore),
      Registry.discover_of_one_root hroots, hothers]

/-- A root that is announced behind another node, and garbage behind the terminator. -/
theorem discover_smallHeaders :
    Announces ["[INFO: App] HCK-NODE non_root 5 b7a0".toList, "boot".toList,
      "HCK-NODE root 1 3261".toList] [(1, "3261".toList)] [(5, "b7a0".toList)] ∧
    (∃ registry, Registry.discover ["[INFO: App] HCK-NODE non_root 5 b7a0".toList, "boot".toList,
        "HCK-NODE root 1 3261".toList, "HCK-NODE end".toList,
        "HCK-NODE root 9 ffff".toList] = .ok registry ∧
      registry.nodes = [⟨1, some "3261".toList⟩, ⟨5, some "b7a0".toList⟩]) ∧
    (∃ registry, Registry.discover ["[HK-N: 1] 1 3261".toList, "[HK-N: 2] 2 b7a0".toList] =
        .ok registry ∧
      registry.nodes = [⟨1, none⟩, ⟨2, none⟩] ∧ registry.indexOfId 2 = .ok 1) ∧
    Registry.discover ["HCK-NODE root 1 3261".toList, "HCK-NODE root 2 b7a0".toList] =
      .error (.duplicateRoot 1 2) ∧
    Registry.discover ["boot".toList] = .error .noRoot := by
  obtain ⟨-, -, hlines, hwritten⟩ := discover_of_header
  have hroot : "HCK-NODE root 1 3261".toList =
      [] ++ HeaderLine.recordLine "root ".toList 1 "3261".toList := by decide +kernel
  have hother : "[INFO: App] HCK-NODE non_root 5 b7a0".toList = "[INFO: App] ".toList ++
      HeaderLine.recordLine "non_root ".toList 5 "b7a0".toList := by decide +kernel
  have hannounces : Announces ["[INFO: App] HCK-NODE non_root 5 b7a0".toList, "boot".toList,
      "HCK-NODE root 1 3261".toList] [(1, "3261".toList)] [(5, "b7a0".toList)] := by
    refine .nonRoot hother (by decide +kernel) (by decide) (by decide +kernel) ?_
    refine .noise (by decide +kernel) (by decide) ?_
    exact .root hroot (by decide) (by decide +kernel) .nil
  have hend : "HCK-NODE end".toList = [] ++ HeaderLine.terminatorLine := by decide +kernel
  obtain ⟨-, -, hcounted, -⟩ := hlines ["[HK-N: 1] 1 3261".toList, "[HK-N: 2] 2 b7a0".toList]
  obtain ⟨hduplicate, -⟩ :=
    hlines ["HCK-NODE root 1 3261".toList, "HCK-NODE root 2 b7a0".toList]
  obtain ⟨-, -, -, hnothing⟩ := hlines ["boot".toList]
  refine ⟨hannounces, ?_, ?_, ?_, hnothing (by decide +kernel) (by decide +kernel)⟩
  · exact ⟨_, hwritten _ _ _ _ [] _ hannounces hend (by decide)⟩
  · have htwo : (headerLines ["[HK-N: 1] 1 3261".toList, "[HK-N: 2] 2 b7a0".toList]).count
        .counted = 2 := by decide +kernel
    rw [htwo] at hcounted
    obtain ⟨registry, hregistry, hnodes, hindex⟩ := hcounted (by decide +kernel) (by decide)
    exact ⟨registry, hregistry, hnodes, hindex 2 (by decide) (by decide)⟩
  · exact (hduplicate 1 2).mpr
      ⟨(1, "3261".toList), (2, "b7a0".toList), [], by decide +kernel, rfl, rfl⟩

end MeshLog
