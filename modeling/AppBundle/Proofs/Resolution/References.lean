import AppBundle.Proofs.Provider.Identity
import AppBundle.Proofs.Resolution.Selection
import Mathlib.Data.List.Permutation

/-! # References in a resolution

In the commands of a resolution a file is referred to by its id between braces. For interpreters whose
providers were made from settings the ids of all files of a resolution are different, each distribution
goes by the id of one interpreter, also as the id of its file, and whatever expansion puts in the place of
a token refers to the file of one distribution and to no bundled file.
-/

namespace AppBundle

namespace Resolution

/-- An id is that of the file of one distribution and of no bundled file. -/
def RefersOnce (resolution : Resolution) (id : String) : Prop :=
  (resolution.distributions.map fun dist => dist.file.id).count id = 1 ∧
    id ∉ resolution.files.map File.id

/-- A text is expanded against the distributions of a resolution, and what stands in the expanded text in
the place of a token begins with a reference by the id of the token, which refers once. -/
def Rewritten (resolution : Resolution) (text expanded : String) : Prop :=
  Distribution.expandAmong resolution.distributions text = .ok expanded ∧
    ∀ (before behind inserted : String) (token : Token), token.WellFormed →
      text = before ++ ("#\x7b" ++ token.inner ++ "\x7d") ++ behind →
      Distribution.expandTokenAmong resolution.distributions token = .ok (some inserted) →
      ∃ front tail back, Distribution.expandAmong resolution.distributions before = .ok front ∧
        Distribution.expandAmong resolution.distributions behind = .ok back ∧
        expanded = front ++ inserted ++ back ∧ inserted = "\x7b" ++ token.id ++ "\x7d" ++ tail ∧
        resolution.RefersOnce token.id

end Resolution

namespace Resolution

variable {resolution : Resolution}

theorem refersOnce_of_mem
    (unambiguous : (resolution.distributions.map (fun dist => dist.file.id) ++
      resolution.files.map File.id).Nodup)
    {dist : Distribution} (member : dist ∈ resolution.distributions) :
    resolution.RefersOnce dist.file.id := by
  obtain ⟨distinct, -, apart⟩ := List.nodup_append.1 unambiguous
  have present := List.mem_map_of_mem (f := fun dist : Distribution => dist.file.id) member
  refine ⟨List.count_eq_one_of_mem distinct present, fun bundled => ?_⟩
  exact apart _ present _ bundled rfl

/-- Each text in the place of a token begins with a reference by the id of one distribution, which is
the id of its file. -/
theorem rewritten_of_expandAmong
    (unambiguous : (resolution.distributions.map (fun dist => dist.file.id) ++
      resolution.files.map File.id).Nodup)
    (distinct : (resolution.distributions.map Distribution.id).Nodup)
    (identity : ∀ dist ∈ resolution.distributions, dist.file.id = dist.id.text)
    {text expanded : String}
    (done : Distribution.expandAmong resolution.distributions text = .ok expanded) :
    resolution.Rewritten text expanded := by
  refine ⟨done, fun before behind inserted token formed same replaced => ?_⟩
  rw [same] at done
  obtain ⟨front, back, frontDone, backDone, whole⟩ :=
    Distribution.exists_of_expandAmong_eq_ok formed replaced done
  obtain ⟨dist, member, own, tail, starts⟩ :=
    Distribution.exists_mem_of_expandTokenAmong distinct replaced
  have refers : token.id = dist.file.id := own.trans (identity dist member).symm
  refine ⟨front, tail, back, frontDone, backDone, whole, ?_, ?_⟩
  · rw [refers]
    exact starts
  · rw [refers]
    exact refersOnce_of_mem unambiguous member

end Resolution

namespace Application

variable {app : Application} {platform : Platform}

section Created

variable (consistent : app.Consistent)
  (created : ∀ interpreter ∈ app.interpreters, interpreter.provider.Created)
  (targeted : platform ∈ app.platforms)

include consistent created targeted

/-- The file of an available distribution goes by the id of the distribution and of its interpreter, and
no bundled file has this id. -/
theorem Consistent.identity_of_mem_availableOn {dist : Distribution}
    (member : dist ∈ app.availableOn platform) :
    dist.file.id = dist.id.text ∧ dist.id ∈ app.interpreters.map Interpreter.id ∧
      dist.file.id ∉ app.files.map File.id := by
  obtain ⟨interpreter, included, present⟩ := mem_availableOn_iff.1 member
  obtain ⟨own, apart⟩ := consistent.distributions interpreter included platform targeted dist present
  have carries := (created interpreter included).carries present
  have same : dist.file.id = dist.id.text := by rw [carries.fileId, carries.id]
  exact ⟨same, own ▸ List.mem_map_of_mem included, apart⟩

/-- The ids of the files of available distributions and of bundled files are all different. -/
theorem Consistent.fileIds_nodup :
    ((app.availableOn platform).map (fun dist => dist.file.id) ++ app.files.map File.id).Nodup := by
  have fileIds : (app.availableOn platform).map (fun dist => dist.file.id) =
      ((app.availableOn platform).map Distribution.id).map Identifier.text := by
    rw [List.map_map]
    refine List.map_congr_left fun dist member => ?_
    exact (consistent.identity_of_mem_availableOn created targeted member).1
  rw [List.nodup_append]
  refine ⟨?_, consistent.files, ?_⟩
  · rw [fileIds]
    exact (consistent.ids_nodup targeted).map fun _ _ => Identifier.text_inj
  · rintro id available other bundled rfl
    obtain ⟨dist, member, rfl⟩ := List.mem_map.1 available
    exact (consistent.identity_of_mem_availableOn created targeted member).2.2 bundled

end Created

end Application

/-- References in a resolution are unambiguous and closed. The ids of all its files are different, each
distribution has the id of its file, which is that of one interpreter, and each text stands where a text
of the application stood and refers, in the place of a token, to the file of one distribution. -/
theorem ApplicationDraft.resolution_references (draft : ApplicationDraft) (app : Application)
    (platform : Platform) (resolution : Resolution) (built : draft.build.result = .ok app)
    (created : ∀ interpreter ∈ app.interpreters, interpreter.provider.Created)
    (resolved : (app.resolve platform).result = .ok resolution) :
    (resolution.distributions.map (fun dist => dist.file.id) ++ resolution.files.map File.id).Nodup ∧
    (∀ dist ∈ resolution.distributions,
      dist.file.id = dist.id.text ∧ (app.interpreters.map Interpreter.id).count dist.id = 1) ∧
    List.Forall₂ resolution.Rewritten app.texts resolution.texts := by
  obtain ⟨-, consistent⟩ := build_eq_ok_iff.1 built
  obtain ⟨targeted, available, files, expanded⟩ := consistent.resolve_eq_ok resolved
  have identity : ∀ dist ∈ resolution.distributions, dist.file.id = dist.id.text ∧
      dist.id ∈ app.interpreters.map Interpreter.id ∧ dist.file.id ∉ app.files.map File.id := by
    intro dist member
    exact consistent.identity_of_mem_availableOn created targeted (available ▸ member)
  have unambiguous : (resolution.distributions.map (fun dist => dist.file.id) ++
      resolution.files.map File.id).Nodup := by
    rw [available, files]
    exact consistent.fileIds_nodup created targeted
  refine ⟨unambiguous, ?_, ?_⟩
  · intro dist member
    obtain ⟨same, included, -⟩ := identity dist member
    exact ⟨same, List.count_eq_one_of_mem consistent.interpreters included⟩
  · refine expanded.imp fun text result done => ?_
    refine Resolution.rewritten_of_expandAmong unambiguous ?_ (fun dist member => ?_) done
    · rw [available]
      exact consistent.ids_nodup targeted
    · exact (identity dist member).1

namespace ApplicationDraft

/-- The settings of a static provider with one distribution. -/
def nodeSettings : Json :=
  .object [
    ("placeholders", .object [("npm", .string "bin/npm")]),
    ("distributions", .object [
      ("linux-x86_64", .object [("url", .string "u/node.zip"), ("type", .string "zip")])])]

/-- The distribution that the settings describe. -/
def node : Distribution where
  id := ⟨"node", by decide⟩
  file := { File.ofName "node.zip" with
    key := some "node"
    source := some .fetch
    fileType := some .zip }
  url := "u/node.zip"
  placeholders := ⟨[(⟨"npm", by decide⟩, "bin/npm")], List.pairwise_singleton _ _⟩

/-- What the settings say about the platform. -/
def nodeEntry : StaticEntry where
  url := "u/node.zip"
  name := none
  fileType := some .zip
  digest := none
  placeholders := .empty

/-- The settings as they are read. -/
def nodeTable : StaticSettings where
  placeholders := node.placeholders
  distributions := ⟨[(.linuxX86_64, nodeEntry)], List.pairwise_singleton _ _⟩

/-- The provider that is made from the settings. -/
def nodeProvider : StaticProvider where
  identifier := node.id
  isLazy := false
  distributions := ⟨[(.linuxX86_64, node)], List.pairwise_singleton _ _⟩

/-- A draft whose command refers to a subpath behind an opening that is not closed. -/
def nodeDraft : ApplicationDraft :=
  { start "demo" .linuxX86_64 with
    commands := [Command.ofExe "#\x7bx#\x7bnode:npm\x7d \x7bapp.zip\x7d"]
    interpreters := [⟨node.id, .static nodeProvider⟩]
    files := [.ofName "app.zip"] }

/-- The resolution of the draft. -/
def nodeResolution : Resolution where
  application := "demo"
  platform := .linuxX86_64
  loadDotenv := false
  eager := [node]
  onDemand := []
  unavailable := []
  files := [.ofName "app.zip"]
  commands := [Command.ofExe "#\x7bx\x7bnode\x7d/bin/npm \x7bapp.zip\x7d"]
  bindings := []

/-- The token is replaced by a reference to the distribution, and the ids of both files differ. -/
theorem references_nodeResolution :
    nodeDraft.build.result = .ok nodeDraft.toApplication ∧
      (∀ interpreter ∈ nodeDraft.toApplication.interpreters, interpreter.provider.Created) ∧
      (nodeDraft.toApplication.resolve .linuxX86_64).result = .ok nodeResolution ∧
      ["node", "app.zip"].Nodup ∧
      nodeResolution.Rewritten "#\x7bx#\x7bnode:npm\x7d \x7bapp.zip\x7d"
        "#\x7bx\x7bnode\x7d/bin/npm \x7bapp.zip\x7d" := by
  have built : nodeDraft.build.result = .ok nodeDraft.toApplication := by rfl
  have resolved : (nodeDraft.toApplication.resolve .linuxX86_64).result = .ok nodeResolution := by
    cbv
  have decoded : StaticSettings.decoder .toml nodeSettings = .ok nodeTable := by rfl
  have filled :
      nodeEntry.distribution node.id node.placeholders .linuxX86_64 = .ok node := by
    have trimmed : Text.trim "u/node.zip" = "u/node.zip" := by cbv
    rw [StaticEntry.distribution, nodeEntry, trimmed]
    rfl
  have listed : StaticProvider.ofSettings node.id false nodeTable = .ok nodeProvider := by
    simp only [StaticProvider.ofSettings, SortedMap.mapM, SortedMap.toList, nodeTable,
      List.mapM_cons, filled]
    rfl
  have made : (Provider.create .static node.id false nodeSettings).result =
      .ok (.static nodeProvider) := by
    rw [Provider.result_create]
    simp only [Provider.ofDocument, decoded, Except.mapError, Except.ok_bind, listed]
    rfl
  have created : ∀ interpreter ∈ nodeDraft.toApplication.interpreters,
      interpreter.provider.Created := by
    intro interpreter member
    cases List.mem_singleton.1 member
    exact ⟨.static, node.id, false, nodeSettings, made⟩
  obtain ⟨distinct, -, rewritten⟩ := resolution_references _ _ _ _ built created resolved
  exact ⟨built, created, resolved, distinct, (List.forall₂_cons.1 rewritten).1⟩

end ApplicationDraft

end AppBundle
