import Mathlib.Data.List.Forall2
import Mathlib.Data.List.Lex
import PermissionNames.Proofs.Discovery
import PermissionNames.Proofs.Source.Blocks

/-! The containers of a module are its marked classes, each counted once, before the classes inside it. -/

namespace PermissionNames

/-- The name of the marker that declares a kind of container. -/
def ContainerKind.markerName : ContainerKind → String
  | store => "permissions_store"
  | repo => "permissions_repo"

/-- A kind is declared by its own marker only. -/
theorem ContainerKind.ofMarker?_eq_some_iff {name : String} {kind : ContainerKind} :
    ofMarker? name = some kind ↔ name = kind.markerName := by
  -- Both markers are compared by their spelling, and any other name is neither of them.
  unfold ofMarker?
  split
  · cases kind <;> simp [markerName]
  · cases kind <;> simp [markerName]
  · rename_i notStore notRepo
    cases kind
    · simpa [markerName] using notStore
    · simpa [markerName] using notRepo

namespace Discovery

open Source

/-- An expression that is a name, or an attribute of whatever owner with that name. -/
inductive EndsWith (text : String) : Expression → Prop
  | name {word : Identifier.Word} (same : word.text = text) : EndsWith text (.name word)
  | attribute (owner : Expression) : EndsWith text (.attribute owner text)

/-- The last component of an expression is the name that it ends with. -/
theorem lastName?_eq_some_iff {expression : Expression} {text : String} :
    expression.lastName? = some text ↔ EndsWith text expression := by
  -- Only a name and a member carry a last component; nothing else ends with one.
  constructor
  · intro last
    cases expression <;> simp only [Expression.lastName?, Option.some.injEq, reduceCtorEq] at last
    · exact .name last
    · subst last
      exact .attribute _
  · rintro (same | owner)
    · exact congrArg some same
    · rfl

/-- A decorator that is the marker of a kind, bare or called. -/
inductive Marks (kind : ContainerKind) : Expression → Prop
  | bare {decorator : Expression} (named : EndsWith kind.markerName decorator) :
      Marks kind decorator
  | called {function : Expression} (named : EndsWith kind.markerName function)
      (arguments : List Expression) (options : List (Option String × Expression)) :
      Marks kind (.call function arguments options)

/-- What carries the name of a decorator: the function of a call, and else the decorator itself. -/
def bareOf : Expression → Expression
  | .call function _ _ => function
  | decorator => decorator

/-- A decorator marks a kind if what carries its name ends with the marker of the kind. -/
theorem marks_iff {decorator : Expression} {kind : ContainerKind} :
    Marks kind decorator ↔ EndsWith kind.markerName (bareOf decorator) := by
  -- A call carries the name of its function, and every other decorator its own.
  constructor
  · rintro (⟨⟨same⟩ | owner⟩ | ⟨named⟩)
    · exact .name same
    · exact .attribute owner
    · exact named
  · intro named
    cases decorator with
    | call function arguments options => exact .called named arguments options
    | _ => exact .bare named

/-- The kind of a marker is the one whose name its decorator carries. -/
theorem kind_ofDecorator? (decorator : Expression) :
    (ClassMarker.ofDecorator? decorator).map (·.kind) =
      (bareOf decorator).lastName?.bind ContainerKind.ofMarker? := by
  -- In each form the marker is made from the last component, so only the kind has to be kept.
  cases decorator <;>
    simp only [ClassMarker.ofDecorator?, bareOf, Option.pure_def, Option.bind_eq_bind,
      Option.map_bind, Function.comp_def, Option.map_some, Option.bind_fun_some]

/-- A decorator stands for a marker of a kind if it marks that kind. -/
theorem kind_ofDecorator?_eq_some_iff {decorator : Expression} {kind : ContainerKind} :
    (ClassMarker.ofDecorator? decorator).map (·.kind) = some kind ↔ Marks kind decorator := by
  -- Both sides come down to the name that the decorator ends with, without its call.
  simp only [kind_ofDecorator?, Option.bind_eq_some_iff, ContainerKind.ofMarker?_eq_some_iff,
    lastName?_eq_some_iff, exists_eq_right, marks_iff]

/-- A decorator stands for no marker if it marks no kind. -/
theorem ofDecorator?_eq_none_iff {decorator : Expression} :
    ClassMarker.ofDecorator? decorator = none ↔ ∀ kind, ¬ Marks kind decorator := by
  -- There is a marker exactly if it has some kind.
  simp only [← kind_ofDecorator?_eq_some_iff, ← ne_eq, ← Option.eq_none_iff_forall_ne_some,
    Option.map_eq_none_iff]

/-- Decorators of which the first that is a marker declares a kind. -/
def FirstMarks (kind : ContainerKind) (decorators : List Expression) : Prop :=
  ∃ before decorator after, decorators = before ++ decorator :: after ∧ Marks kind decorator ∧
    ∀ earlier ∈ before, ∀ other, ¬ Marks other earlier

/-- The marker that is found among decorators is the first one. -/
theorem kind_find?_eq_some_iff {decorators : List Expression} {kind : ContainerKind} :
    (ClassMarker.find? decorators).map (·.kind) = some kind ↔ FirstMarks kind decorators := by
  -- What is found stands behind decorators in which nothing is found.
  unfold ClassMarker.find? FirstMarks
  rw [List.map_findSome?, List.findSome?_eq_some_iff]
  simp only [Function.comp_def, kind_ofDecorator?_eq_some_iff, Option.map_eq_none_iff,
    ofDecorator?_eq_none_iff]

/-- A class as it stands in a body. -/
structure ClassNode where
  decorators : List Expression
  name : Identifier.Word
  bases : List Expression
  body : List Statement

/-- The statement that a class is. -/
def ClassNode.statement (node : ClassNode) : Statement :=
  .classDefinition node.decorators node.name node.bases node.body

/-- A class with the indices that lead to it and the names of the classes around it, outermost first. -/
structure Reached where
  position : List Nat
  enclosing : List String
  node : ClassNode

/-- What is reached inside a class, seen from the body that the class stands in. -/
def Reached.within (index : Nat) (name : String) (inner : Reached) : Reached :=
  ⟨index :: inner.position, name :: inner.enclosing, inner.node⟩

/-- A class that is reached from a body through the bodies of classes alone. -/
inductive ReachedFrom : List Statement → Reached → Prop
  | here {body : List Statement} {index : Nat} {node : ClassNode}
      (listed : body[index]? = some node.statement) : ReachedFrom body ⟨[index], [], node⟩
  | inside {body : List Statement} {index : Nat} {outer : ClassNode} {inner : Reached}
      (listed : body[index]? = some outer.statement) (reached : ReachedFrom outer.body inner) :
      ReachedFrom body (inner.within index outer.name.text)

mutual

/-- The class that a statement is, and then those inside it. -/
def classesOf (index : Nat) : Statement → List Reached
  | .classDefinition decorators name bases body =>
    ⟨[index], [], ⟨decorators, name, bases, body⟩⟩ ::
      (classesFrom 0 body).map (Reached.within index name.text)
  | _ => []

/-- The classes of a body whose first statement has an index. -/
def classesFrom (index : Nat) : List Statement → List Reached
  | [] => []
  | first :: rest => classesOf index first ++ classesFrom (index + 1) rest

end

/-- The classes of a statement of a body are among those of the body. -/
theorem mem_classesFrom_of_getElem? {body : List Statement} {index : Nat} {statement : Statement}
    (listed : body[index]? = some statement) (first : Nat) {reached : Reached}
    (member : reached ∈ classesOf (first + index) statement) :
    reached ∈ classesFrom first body := by
  -- The statements in front only shift the index, which is counted from where the body starts.
  induction body generalizing first index with
  | nil => simp at listed
  | cons head rest ih =>
    rw [classesFrom, List.mem_append]
    cases index with
    | zero =>
      simp only [List.getElem?_cons_zero, Option.some.injEq] at listed
      subst listed
      exact .inl member
    | succ index =>
      rw [List.getElem?_cons_succ] at listed
      refine .inr (ih listed (first + 1) ?_)
      rwa [Nat.add_right_comm, Nat.add_assoc]

/-- Every class that is reached from a body is listed. -/
theorem ReachedFrom.mem_classesFrom {body : List Statement} {reached : Reached}
    (chain : ReachedFrom body reached) : reached ∈ classesFrom 0 body := by
  -- Each step of the way down is an index in a body, so the induction is on the way.
  induction chain with
  | here listed =>
    refine mem_classesFrom_of_getElem? listed 0 ?_
    rw [Nat.zero_add, ClassNode.statement, classesOf]
    exact List.mem_cons_self
  | inside listed _ ih =>
    refine mem_classesFrom_of_getElem? listed 0 ?_
    rw [Nat.zero_add, ClassNode.statement, classesOf]
    exact List.mem_cons_of_mem _ (List.mem_map_of_mem ih)

mutual

/-- A class that is listed for a statement is reached from any body with that statement. -/
theorem reachedFrom_of_mem_classesOf (statement : Statement) {body : List Statement} {index : Nat}
    (listed : body[index]? = some statement) {reached : Reached}
    (member : reached ∈ classesOf index statement) : ReachedFrom body reached := by
  cases statement with
  | classDefinition decorators name bases inner =>
    rw [classesOf] at member
    -- It is the class itself, or one that is reached from its body.
    rcases List.mem_cons.mp member with rfl | deeper
    · exact .here listed
    · obtain ⟨below, found, rfl⟩ := List.mem_map.mp deeper
      have isClass : body[index]? = some (ClassNode.statement ⟨decorators, name, bases, inner⟩) :=
        listed
      exact .inside isClass (reachedFrom_of_mem_classesFrom inner (by simp) found)
  | assignment targets value => simp [classesOf] at member
  | declaration target type value => simp [classesOf] at member
  | other => simp [classesOf] at member

/-- A class that is listed for the rest of a body is reached from the body. -/
theorem reachedFrom_of_mem_classesFrom (rest : List Statement) {body : List Statement} {first : Nat}
    (listed : ∀ index, body[first + index]? = rest[index]?) {reached : Reached}
    (member : reached ∈ classesFrom first rest) : ReachedFrom body reached := by
  -- The rest of the body is what stands from an index on, so the index is carried along.
  cases rest with
  | nil => simp [classesFrom] at member
  | cons head rest =>
    rw [classesFrom] at member
    rcases List.mem_append.mp member with here | later
    · exact reachedFrom_of_mem_classesOf head (by simpa using listed 0) here
    · refine reachedFrom_of_mem_classesFrom rest ?_ later
      intro index
      rw [Nat.add_assoc, Nat.add_comm 1, listed, List.getElem?_cons_succ]

end

/-- The listed classes of a body are those that are reached from it. -/
theorem mem_classesFrom_iff {body : List Statement} {reached : Reached} :
    reached ∈ classesFrom 0 body ↔ ReachedFrom body reached :=
  ⟨reachedFrom_of_mem_classesFrom body (by simp), ReachedFrom.mem_classesFrom⟩

/-- The classes listed for a statement are at its index or inside it. -/
theorem exists_position_of_mem_classesOf {statement : Statement} {index : Nat} {reached : Reached}
    (member : reached ∈ classesOf index statement) :
    ∃ inner, reached.position = index :: inner := by
  -- A class stands at the index itself, and the ones inside it have more behind the index.
  cases statement with
  | classDefinition decorators name bases body =>
    rw [classesOf] at member
    rcases List.mem_cons.mp member with rfl | deeper
    · exact ⟨[], rfl⟩
    · obtain ⟨below, -, rfl⟩ := List.mem_map.mp deeper
      exact ⟨below.position, rfl⟩
  | assignment targets value => simp [classesOf] at member
  | declaration target type value => simp [classesOf] at member
  | other => simp [classesOf] at member

/-- The classes listed for the rest of a body are at the index of its first statement or behind it. -/
theorem exists_position_of_mem_classesFrom {body : List Statement} {first : Nat}
    {reached : Reached} (member : reached ∈ classesFrom first body) :
    ∃ index inner, first ≤ index ∧ reached.position = index :: inner := by
  -- What is listed for the first statement stands at its index, and what comes later behind it.
  induction body generalizing first with
  | nil => simp [classesFrom] at member
  | cons head rest ih =>
    rw [classesFrom] at member
    rcases List.mem_append.mp member with here | later
    · obtain ⟨inner, position⟩ := exists_position_of_mem_classesOf here
      exact ⟨first, inner, le_refl first, position⟩
    · obtain ⟨index, inner, behind, position⟩ := ih later
      exact ⟨index, inner, Nat.le_of_succ_le behind, position⟩

mutual

/-- The classes of a statement are listed in the order of their positions. -/
theorem pairwise_classesOf (index : Nat) (statement : Statement) :
    (classesOf index statement).Pairwise fun first second => first.position < second.position := by
  cases statement with
  | classDefinition decorators name bases body =>
    rw [classesOf, List.pairwise_cons, List.pairwise_map]
    constructor
    · -- A class comes before those inside it, whose positions go on from its own.
      intro reached member
      obtain ⟨below, listed, rfl⟩ := List.mem_map.mp member
      obtain ⟨inner, rest, -, position⟩ := exists_position_of_mem_classesFrom listed
      simp [Reached.within, position]
    · exact (pairwise_classesFrom 0 body).imp fun before => by simpa [Reached.within] using before
  | assignment targets value => simp [classesOf]
  | declaration target type value => simp [classesOf]
  | other => simp [classesOf]

/-- The classes of a body are listed in the order of their positions. -/
theorem pairwise_classesFrom (first : Nat) (body : List Statement) :
    (classesFrom first body).Pairwise fun one other => one.position < other.position := by
  cases body with
  | nil => simp [classesFrom]
  | cons head rest =>
    rw [classesFrom, List.pairwise_append]
    refine ⟨pairwise_classesOf first head, pairwise_classesFrom (first + 1) rest, ?_⟩
    -- The classes of a statement have smaller indices than those of the statements behind it.
    intro one here other later
    obtain ⟨inner, position⟩ := exists_position_of_mem_classesOf here
    obtain ⟨index, rest, behind, further⟩ := exists_position_of_mem_classesFrom later
    rw [position, further, List.cons_lt_cons_iff]
    exact .inl behind

end

/-- The namespace of a class inside others is joined from the names that are left when leading empty ones are dropped. -/
theorem foldl_namespaceWithin (names : List String) (outer : String) :
    names.foldl namespaceWithin outer = ".".intercalate ((outer :: names).dropWhile (· = "")) := by
  induction names generalizing outer with
  | nil =>
    by_cases top : outer = "" <;> simp [top]
  | cons name rest ih =>
    rw [List.foldl_cons, ih]
    by_cases top : outer = ""
    · simp [namespaceWithin, top]
    · -- The joined name is not empty, so nothing is dropped in front of it.
      simp [namespaceWithin, top, String.intercalate_cons_cons, String.append_assoc]

/-- A container that says of a class what the class and the classes around it are. -/
structure Describes (moduleName : String) (sourcePath : Option String) (reached : Reached)
    (container : Container) : Prop where
  name : container.name = reached.node.name.text
  namespacePath : container.namespacePath =
    ".".intercalate ((moduleName :: reached.enclosing).dropWhile (· = ""))
  kind : FirstMarks container.kind reached.node.decorators
  reEmittable : container.reEmittable = true ↔
    ∃ base ∈ reached.node.bases, EndsWith "Partial" base
  sourcePath : container.sourcePath = sourcePath

/-- A container that describes a class in the namespace of another one describes it as a class inside that. -/
theorem Describes.within {outer : String} {sourcePath : Option String} {reached : Reached}
    {container : Container} {name : String}
    (describes : Describes (namespaceWithin outer name) sourcePath reached container)
    (index : Nat) : Describes outer sourcePath (reached.within index name) container := by
  -- Going one class up adds its name in front of the namespace and changes nothing else.
  obtain ⟨named, namespacePath, kind, reEmittable, path⟩ := describes
  refine ⟨named, ?_, kind, reEmittable, path⟩
  rw [namespacePath, ← foldl_namespaceWithin, ← foldl_namespaceWithin]
  rfl

/-- Whether some decorator of a class is a marker. -/
def Reached.isMarked (reached : Reached) : Bool :=
  (ClassMarker.find? reached.node.decorators).isSome

/-- A class with a marker has a first one. -/
theorem Reached.isMarked_iff {reached : Reached} :
    reached.isMarked = true ↔ ∃ kind, FirstMarks kind reached.node.decorators := by
  -- There is a first marker exactly if one is found, and its kind tells which.
  have kinds : isMarked reached =
      ((ClassMarker.find? reached.node.decorators).map (·.kind)).isSome := by
    rw [isMarked, Option.isSome_map]
  simp only [kinds, Option.isSome_iff_exists, kind_find?_eq_some_iff]

/-- A class with a marker stays where only marked classes are kept. -/
theorem filter_isMarked {reached : Reached} {marker : ClassMarker}
    (marked : ClassMarker.find? reached.node.decorators = some marker) :
    [reached].filter Reached.isMarked = [reached] := by
  simp [Reached.isMarked, marked]

section Pairing

variable {surroundings : Surroundings} {relation : String → Reached → Container → Prop}

/-- The containers of a module are paired with its marked classes, if each class is with its own and the pairing is known from the class around it. -/
structure Pairs (surroundings : Surroundings) (relation : String → Reached → Container → Prop) :
    Prop where
  own : ∀ {outer : String} (node : ClassNode) {findings : Findings},
    containerOf surroundings outer node.decorators node.name.text node.bases node.body =
      .ok findings → ∀ index, List.Forall₂ (relation outer)
        ([⟨[index], [], node⟩].filter Reached.isMarked) findings.containers
  within : ∀ {outer name : String} {reached : Reached} {container : Container},
    relation (namespaceWithin outer name) reached container →
      ∀ index, relation outer (reached.within index name) container

mutual

/-- The containers of a statement are paired with its marked classes one by one. -/
theorem Pairs.ofStatement (pairs : Pairs surroundings relation) {outer : String}
    (statement : Statement) (index : Nat) {findings : Findings}
    (found : Discovery.ofStatement surroundings outer statement = .ok findings) :
    List.Forall₂ (relation outer) ((classesOf index statement).filter Reached.isMarked)
      findings.containers := by
  cases statement with
  | classDefinition decorators name bases body =>
    rw [Discovery.ofStatement] at found
    obtain ⟨own, declared, found⟩ := bind_eq_ok found
    obtain ⟨inner, nested, found⟩ := bind_eq_ok found
    cases found
    -- The class itself comes first, and those inside it are seen from its own namespace.
    rw [classesOf, ← List.singleton_append, List.filter_append, Findings.containers_append]
    refine List.rel_append (pairs.own ⟨decorators, name, bases, body⟩ declared index) ?_
    rw [List.filter_map, List.forall₂_map_left_iff]
    exact (Pairs.ofBody pairs body 0 nested).imp fun _ _ paired => pairs.within paired index
  | assignment targets value =>
    cases found
    exact .nil
  | declaration target type value =>
    cases found
    exact .nil
  | other =>
    cases found
    exact .nil

/-- The containers of a body are paired with its marked classes one by one. -/
theorem Pairs.ofBody (pairs : Pairs surroundings relation) {outer : String}
    (body : List Statement) (first : Nat) {findings : Findings}
    (found : Discovery.ofBody surroundings outer body = .ok findings) :
    List.Forall₂ (relation outer) ((classesFrom first body).filter Reached.isMarked)
      findings.containers := by
  -- The findings of the first statement come before those of the others, as the classes do.
  cases body with
  | nil =>
    cases found
    exact .nil
  | cons head rest =>
    rw [Discovery.ofBody] at found
    obtain ⟨here, declared, found⟩ := bind_eq_ok found
    obtain ⟨later, others, found⟩ := bind_eq_ok found
    cases found
    rw [classesFrom, List.filter_append, Findings.containers_append]
    exact List.rel_append (Pairs.ofStatement pairs head first declared)
      (Pairs.ofBody pairs rest (first + 1) others)

end

end Pairing

/-- What a marked class declares is one container, of the kind and with the options of its marker. -/
theorem containers_of_containerOf {surroundings : Surroundings} {outer : String} {node : ClassNode}
    {findings : Findings}
    (found : containerOf surroundings outer node.decorators node.name.text node.bases node.body =
      .ok findings) :
    (ClassMarker.find? node.decorators = none ∧ findings.containers = []) ∨
      ∃ marker slots flags notices, ClassMarker.find? node.decorators = some marker ∧
        marker.evaluate node.name.text = .ok (flags, notices) ∧
        findings.containers = [{
          name := node.name.text, namespacePath := outer, slots, flags, kind := marker.kind
          reEmittable := node.bases.any fun base => base.lastName? == some "Partial"
          sourcePath := surroundings.sourcePath }] := by
  -- Without a marker nothing is declared; with one, what fails in between declares nothing either.
  unfold containerOf at found
  split at found
  · rename_i unmarked
    cases found
    exact .inl ⟨unmarked, rfl⟩
  · rename_i marker marked
    obtain ⟨slots, -, found⟩ := bind_eq_ok found
    obtain ⟨⟨flags, notices⟩, evaluated, found⟩ := bind_eq_ok found
    cases found
    exact .inr ⟨marker, slots.map (·.slot), flags, notices, marked, evaluated, rfl⟩

/-- A class declares the container that describes it if it has a marker, and none otherwise. -/
theorem forall₂_containerOf {surroundings : Surroundings} {outer : String} (node : ClassNode)
    {findings : Findings}
    (found : containerOf surroundings outer node.decorators node.name.text node.bases node.body =
      .ok findings) (index : Nat) :
    List.Forall₂ (Describes outer surroundings.sourcePath)
      ([⟨[index], [], node⟩].filter Reached.isMarked) findings.containers := by
  -- The marker that is found settles the kind, and the namespace is the outer one, as there is no
  -- class between.
  rcases containers_of_containerOf found with
    ⟨unmarked, none⟩ | ⟨marker, slots, flags, notices, marked, -, one⟩
  · simp [Reached.isMarked, unmarked, none]
  · rw [filter_isMarked marked, one]
    refine .cons ⟨rfl, ?_, ?_, ?_, rfl⟩ .nil
    · rw [← foldl_namespaceWithin]
      rfl
    · exact kind_find?_eq_some_iff.mp (by rw [marked]; rfl)
    · simp [← lastName?_eq_some_iff]

/-- The containers of a body describe its marked classes one by one. -/
theorem forall₂_ofBody {surroundings : Surroundings} {outer : String} (body : List Statement)
    (first : Nat) {findings : Findings}
    (found : ofBody surroundings outer body = .ok findings) :
    List.Forall₂ (Describes outer surroundings.sourcePath)
      ((classesFrom first body).filter Reached.isMarked) findings.containers := by
  -- A single class describes its container, and a namespace grows with each class on the way.
  have pairs : Pairs surroundings fun outer => Describes outer surroundings.sourcePath :=
    ⟨forall₂_containerOf, Describes.within⟩
  exact pairs.ofBody body first found

/-- Containers for the marked classes that are reached from a body, one for each, in the order of their positions. -/
structure ListsMarked (body : List Statement) (moduleName : String) (sourcePath : Option String)
    (listed : List Reached) (containers : List Container) : Prop where
  rising : listed.Pairwise fun first second => first.position < second.position
  complete : ∀ reached, reached ∈ listed ↔
    ReachedFrom body reached ∧ ∃ kind, FirstMarks kind reached.node.decorators
  described : List.Forall₂ (Describes moduleName sourcePath) listed containers

/-- The containers of a body are listed by its marked classes. -/
theorem listsMarked_ofBody {surroundings : Surroundings} {moduleName : String}
    {body : List Statement} {findings : Findings}
    (found : ofBody surroundings moduleName body = .ok findings) :
    ListsMarked body moduleName surroundings.sourcePath
      ((classesFrom 0 body).filter Reached.isMarked) findings.containers := by
  -- The classes are listed in the order of their positions, which filtering by markers keeps.
  refine ⟨(pairwise_classesFrom 0 body).filter Reached.isMarked, ?_, forall₂_ofBody body 0 found⟩
  intro reached
  rw [List.mem_filter, mem_classesFrom_iff, Reached.isMarked_iff]

/-- The containers of a text are those of its marked classes, reached through classes alone, one for each and in the order of the text.
Of a statement that is no class, nothing is kept that could be reached. -/
theorem containers_of_ofSource {source moduleName : String} {sourcePath : Option String}
    {findings : Findings} (found : ofSource source moduleName sourcePath = .ok findings) :
    (∃ body, readModule source = .ok body ∧
      ∃ listed, ListsMarked body moduleName sourcePath listed findings.containers) ∧
    ∀ (inner : Grammar) (block : BlockParser) lexemes statements rest,
      inner.statement block lexemes = some (statements, rest) →
        (∃ statement, statements = [statement] ∧
          Grammar.ReadsClass inner block lexemes rest statement) ∨
        ∀ node : ClassNode, node.statement ∉ statements := by
  -- The first part is about the body that was read, the second about what a statement is read as.
  constructor
  · obtain ⟨body, read, inBody⟩ := exists_ofBody_of_ofSource found
    exact ⟨body, read, _, listsMarked_ofBody inBody⟩
  · intro inner block lexemes statements rest taken
    refine (Grammar.readsClass_or_noClasses taken).imp_right fun noClasses node member => ?_
    exact noClasses _ member _ _ _ _ rfl

/-- A module in which marked classes stand in an unmarked one, in each other, and in a condition. -/
def nestedClasses : String :=
  "class Outer:\n @permissions_repo\n class Read(Partial):\n  @tags.permissions_store()\n" ++
    "  @permissions_repo\n  class Write: pass\nif 1:\n @permissions_repo\n class Hidden: pass\n"

/-- The containers that the module declares where it has no name. -/
def nestedContainers : List Container := [
  { name := "Read", namespacePath := "Outer", kind := .repo, reEmittable := true },
  { name := "Write", namespacePath := "Outer.Read", kind := .store, reEmittable := false }]

/-- Marked classes are found at every depth, with the names of all classes around them, and not inside a condition. -/
theorem containers_of_ofSource_nestedClasses :
    ofSource nestedClasses "" = .ok ⟨nestedContainers, []⟩ ∧
    ∃ body, readModule nestedClasses = .ok body ∧
      ∃ listed, ListsMarked body "" none listed nestedContainers := by
  -- The characters are taken from the literals: to decode their bytes takes long.
  have read := @readModule_of_toList nestedClasses _
    (toList_append_of_toList String.toList_ofList String.toList_ofList)
  have found : ofSource nestedClasses "" = .ok ⟨nestedContainers, []⟩ := by
    rw [ofSource, read]
    decide +kernel
  exact ⟨found, (containers_of_ofSource found).1⟩

end Discovery

end PermissionNames
