import PermissionNames.Proofs.Command.Rerun
import PermissionNames.Proofs.Discovery.Files

/-! The bytes that a finished run leaves at its targets. -/

namespace PermissionNames.Command

open Discovery TreeAction

variable {tree after : FileTree} {directory : Path} {words : List String} {report : Report}

/-- A file holds the bytes of a text. -/
def HoldsExactly (tree : FileTree) (target : Path) (text : String) : Prop :=
  tree.HasFile target (Utf8.encode text.toList)

/-- A file was there before with other bytes than those of a text, which is read from it once its carriage returns are taken for newlines. -/
def HoldsReturns (tree after : FileTree) (target : Path) (text : String) : Prop :=
  ∃ bytes raw, after.HasFile target bytes ∧ tree.entry? target.parts = some (.file bytes) ∧
    Utf8.decode bytes = .ok raw ∧ '\r' ∈ raw ∧ unifyNewlines raw = text.toList

/-- A text in place has its bytes at its target, unless a file with carriage returns was there that reads like it. -/
theorem InPlace.holds {target : Path} {text : String} {storage : Storage}
    (level : ".." ∉ target.parts) (inPlace : InPlace target text tree after storage) :
    HoldsExactly after target text ∨ HoldsReturns tree after target text := by
  -- A file that was read as the text is left alone, so its own bytes stay.
  cases storage with
  | written => exact .inl inPlace.1
  | unchanged =>
    obtain ⟨read, same, -⟩ := inPlace
    obtain ⟨bytes, raw, file, decoded, unified⟩ := FileTree.readText_eq_ok_iff.mp read
    by_cases returns : '\r' ∈ raw
    · have standing := (FileTree.entry?_of_status level file.status).1
      exact .inr ⟨bytes, raw, file, by rw [← same, standing], decoded, returns, unified⟩
    · -- Without carriage returns the text itself was decoded, and from its own bytes only.
      rw [unifyNewlines_eq_self returns] at unified
      rw [unified] at decoded
      refine .inl ?_
      rw [HoldsExactly, Utf8.encode_of_decode decoded]
      exact file

/-- After a run that ended with success or with findings every target holds exactly the bytes of its text.
The exception is a file that was there before and differs from them in carriage returns only. -/
theorem holds_after_run (named : tree.WellNamed)
    (done : (run tree directory words).result = .ok report)
    (code : report.exitCode = Report.success ∨ report.exitCode = Report.completedWithErrors) :
    ∃ arguments settings files result,
      Prepared tree directory words arguments settings files result ∧
      ∀ source ∈ result.sources,
        HoldsExactly (run tree directory words).tree (targetOf settings.output source) source.text ∨
        HoldsReturns tree (run tree directory words).tree (targetOf settings.output source)
          source.text := by
  obtain ⟨arguments, settings, files, result, stored, prepared, storing, -⟩ :=
    prepared_of_run done code
  have free := prepared.isSlashFreeSource named
  have distinct := distinct_of_generate prepared.generated
  have level := (validated_of_validate prepared.valid).output_level
  -- All sources were stored, at targets that spare each other.
  have settled : ∀ source ∈ result.sources, Settled (targetOf settings.output source) :=
    fun source member => (free source member).settled level
  have inPlace := inPlace_of_storeAll settled (spared_of_distinct settings.output free distinct)
    storing
  refine ⟨arguments, settings, files, result, prepared, ?_⟩
  intro source member
  obtain ⟨storage, -, there⟩ := exists_of_forall₂ inPlace member
  exact there.holds (settled source member).level

/-- A class with one slot, whose name is final. -/
def ownRead : Container where
  name := "Read"
  namespacePath := "codes"
  slots := [{ Slot.own with finalized := true }]

/-- A batch with this class alone yields its source. -/
theorem generate_readInCodes :
    generate [Project.readInCodes] {} = .ok ⟨[ownRead.source .python], []⟩ := rfl

/-- A tree with one module, whose source is there already, but with carriage returns at its line ends. -/
def returnsAtTarget : FileTree where
  entries := [(["in"], .directory), (["in", "codes.py"], .file (Utf8.encode
      "@permissions_repo\nclass Read(Partial):\n    own: str\n".toList)),
    (["out"], .directory), (["out", "codes"], .directory),
    (["out", "codes", "Read_generated.py"], .file (Utf8.encode
      ("# <auto-generated />\r\n\"\"\"Generated permission names for codes.Read.\"\"\"\r\n\r\n\r\n" ++
        "class Read:\r\n    @property\r\n    def own(self) -> str:\r\n" ++
        "        return \"own\"\r\n").toList))]

/-- The module declares its class. -/
theorem findInSources_returnsAtTarget :
    findInSources returnsAtTarget ⟨.root, ["in"]⟩ [⟨.root, ["in", "codes.py"]⟩] =
      ⟨[Project.readInCodes], []⟩ := by
  -- There is one file, and its containers are known.
  have declares := @Project.declares_readInCodes ⟨returnsAtTarget, ⟨.root, []⟩, ⟨.root, ["in"]⟩⟩
    ⟨.root, ["in", "codes.py"]⟩ ⟨by decide, rfl⟩ rfl rfl
  rw [findInSources, Project.find_singleton, declares.findIn_eq]

/-- The run on this tree is prepared, with one source. -/
theorem prepared_returnsAtTarget : Prepared returnsAtTarget ⟨.root, []⟩ inToOut
    { input := "in", output := "out" } ⟨⟨.root, ["in"]⟩, ⟨.root, ["out"]⟩, {}⟩
    [⟨.root, ["in", "codes.py"]⟩] ⟨[ownRead.source .python], []⟩ where
  read := by decide
  valid := rfl
  selected := by decide +kernel
  digested := by
  -- Each field computes, once the containers are known.
    rw [findInSources_returnsAtTarget]
    rfl
  generated := by
    rw [findInSources_returnsAtTarget]
    exact generate_readInCodes

/-- The text of its source. -/
theorem text_ownRead : (ownRead.source .python).text =
    "# <auto-generated />\n\"\"\"Generated permission names for codes.Read.\"\"\"\n\n\nclass Read:\n" ++
      "    @property\n    def own(self) -> str:\n        return \"own\"\n" := by
  decide +kernel

/-- What stands at the target is another text, which is read as this one. -/
theorem status_returnsAtTarget : ∃ raw,
    returnsAtTarget.status (targetOf ⟨.root, ["out"]⟩ (ownRead.source .python)) =
      .ok (.file (Utf8.encode raw)) ∧
    raw ≠ (ownRead.source .python).text.toList ∧
    unifyNewlines raw = (ownRead.source .python).text.toList := by
  -- The text is spelled out first, since comparing literals in the kernel is slow.
  have spelled := (congrArg String.toList text_ownRead).trans
    (toList_append_of_toList String.toList_ofList String.toList_ofList)
  refine ⟨_, rfl, ?_⟩
  rw [spelled, toList_append_of_toList
    (toList_append_of_toList String.toList_ofList String.toList_ofList) String.toList_ofList]
  decide +kernel

/-- The run on this tree finds its source in place and leaves the tree as it is. -/
theorem run_returnsAtTarget : run returnsAtTarget ⟨.root, []⟩ inToOut =
    ⟨returnsAtTarget, .ok (finishedReport [⟨.root, ["in", "codes.py"]⟩]
      (findInSources returnsAtTarget ⟨.root, ["in"]⟩ [⟨.root, ["in", "codes.py"]⟩])
      ⟨[ownRead.source .python], []⟩ [.unchanged])⟩ := by
  -- The target is read as the text already, so nothing is stored.
  have read : ∀ source ∈ [ownRead.source .python],
      returnsAtTarget.readText (targetOf ⟨.root, ["out"]⟩ source) = .ok source.text.toList := by
    rw [List.forall_mem_singleton]
    obtain ⟨raw, status, -, unified⟩ := status_returnsAtTarget
    exact FileTree.readText_eq_ok_iff.mpr
      ⟨_, raw, ⟨by decide +kernel, status⟩, Utf8.decode_encode raw, unified⟩
  exact prepared_returnsAtTarget.run_eq (on_storeAll (by simp [Container.source]) read)

/-- This run is a success, and its target is one of those that were there before. -/
theorem holds_after_run_returnsAtTarget :
    returnsAtTarget.WellNamed ∧
    ∃ arguments settings files result,
      Prepared returnsAtTarget ⟨.root, []⟩ inToOut arguments settings files result ∧
      ∀ source ∈ result.sources,
        HoldsExactly (run returnsAtTarget ⟨.root, []⟩ inToOut).tree
          (targetOf settings.output source) source.text ∨
        HoldsReturns returnsAtTarget (run returnsAtTarget ⟨.root, []⟩ inToOut).tree
          (targetOf settings.output source) source.text := by
  -- The names in the tree are looked through, and the run is a success.
  have named : returnsAtTarget.WellNamed := by decide +kernel
  exact ⟨named, holds_after_run named (by rw [run_returnsAtTarget]) (.inl rfl)⟩

/-- A run may end with success and leave a target without the bytes of its text. -/
theorem returns_stay_after_run :
    ∃ report arguments settings files result,
      (run returnsAtTarget ⟨.root, []⟩ inToOut).result = .ok report ∧
      report.exitCode = Report.success ∧
      Prepared returnsAtTarget ⟨.root, []⟩ inToOut arguments settings files result ∧
      ∃ source ∈ result.sources,
        ¬ HoldsExactly (run returnsAtTarget ⟨.root, []⟩ inToOut).tree
          (targetOf settings.output source) source.text := by
  -- The bytes at the target are those of the other text, and the run keeps them.
  have differs : returnsAtTarget.status (targetOf ⟨.root, ["out"]⟩ (ownRead.source .python)) ≠
      .ok (.file (Utf8.encode (ownRead.source .python).text.toList)) := by
    obtain ⟨raw, status, other, -⟩ := status_returnsAtTarget
    rw [status]
    intro same
    have encoded : Utf8.encode raw = Utf8.encode (ownRead.source .python).text.toList := by
      simpa using same
    exact other (Utf8.eq_of_encode_eq encoded)
  rw [run_returnsAtTarget]
  exact ⟨_, _, _, _, _, rfl, rfl, prepared_returnsAtTarget, _, List.mem_singleton_self _,
    fun file => differs file.status⟩

end PermissionNames.Command
