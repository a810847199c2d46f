import DeadSymbols.Proofs.Effects
import DeadSymbols.Proofs.FileTree

/-!
Contract: the copy of an image and its temporary directory.

Verifying an image leaves the host as it is, unless a copy is made. Then the temporary directory and
the copy in it are new, and all that stands outside the directory is as before. Removing the copy
takes away what stands at and below the directory, also when other places have changed in between,
as long as directories stay. So a copy that fails, with a part of the image in it, leaves nothing.

Owns: the outcomes of verifying, the files around a staged copy.
-/

namespace DeadSymbols

open DeadSymbols.Host

variable {host other after : Host} {path name : String}

namespace Image

variable {content : ByteArray} {kind : MachO.Kind} {tree : FileTree} {error : InputError}

theorem verify_refused (refused : inspect host path = .error error) :
    verify path host = (.error error, host) := by
  simp only [verify, get_bind, refused]
  rfl

theorem verify_plain (inspected : inspect host path = .ok (content, kind))
    (plain : stagedName? path = none) :
    verify path host =
      (.ok { path, analyzedPath := path, digest := Digest.hexDigest content.toList, kind,
             staging := none }, host) := by
  simp only [verify, get_bind, inspected, plain]
  rfl

theorem verify_unstaged (inspected : inspect host path = .ok (content, kind))
    (blanks : stagedName? path = some name)
    (refused : stagedTree host path name content = (.error error, tree)) :
    verify path host = (.error error, { host with tree }) := by
  have staged : stage path name content host = (.error error, { host with tree }) := by
    simp only [stage, get_bind, refused]
    rfl
  simp only [verify, get_bind, inspected, blanks]
  rw [bind_eq, staged]
  rfl

theorem verify_staged (inspected : inspect host path = .ok (content, kind))
    (blanks : stagedName? path = some name)
    (copied : stagedTree host path name content = (.ok (), tree)) :
    ∃ log, verify path host =
      (.ok { path, analyzedPath := Path.join (stagingPath host) name
             digest := Digest.hexDigest content.toList, kind
             staging := some (stagingPath host) },
        { host with tree, log }) := by
  have staged : ∃ log, stage path name content host =
      (.ok (stagingPath host, Path.join (stagingPath host) name), { host with tree, log }) := by
    simp only [stage, get_bind, copied]
    exact ⟨_, rfl⟩
  obtain ⟨log, staged⟩ := staged
  refine ⟨log, ?_⟩
  simp only [verify, get_bind, inspected, blanks]
  rw [bind_eq, staged]
  rfl

/-! ### The files around a copy -/

variable {place : Location} {image : Image}

/-- The temporary directory of a copy would stand at the place. -/
def StagesAt (host : Host) (place : Location) : Prop :=
  ∃ slashed, host.tree.target host.workDir (stagingPath host) = .ok (.named place slashed)

/-- The tree is that of the host but for the place and what is below it, and the temporary directory
is found at the place as long as directories stay. -/
structure StagedAt (host : Host) (place : Location) (tree : FileTree) : Prop where
  stages : StagesAt host place
  somewhere : place ≠ []
  outside : ∀ location, ¬place <+: location → tree.get? location = host.tree.get? location
  found : ∀ later, tree.KeepsDirectories later →
    later.resolve host.workDir (stagingPath host) = .ok place

theorem StagedAt.removeAll {later : FileTree} (staged : StagedAt host place tree)
    (keeps : tree.KeepsDirectories later) :
    later.removeAll host.workDir (stagingPath host) = later.removeAt place := by
  rw [FileTree.removeAll, staged.found later keeps]

theorem read_of_inspect (inspected : inspect host path = .ok (content, kind)) :
    host.read path = .ok content := by
  unfold inspect at inspected
  split_ifs at inspected
  split at inspected
  · cases inspected
  · rename_i found stands
    split at inspected
    · cases inspected
    · cases inspected
      exact stands

/-- An image that is verified is read where it stands, or from its copy. -/
theorem verify_eq_ok {during : Host} (verified : verify path host = (.ok image, during)) :
    ∃ content, host.read path = .ok content ∧
      ((stagedName? path = none ∧ image.analyzedPath = path ∧ during = host) ∨
        ∃ name tree log, stagedName? path = some name ∧
          stagedTree host path name content = (.ok (), tree) ∧
          image.analyzedPath = Path.join (stagingPath host) name ∧
          during = { host with tree, log }) := by
  cases inspected : inspect host path with
  | error error => cases verified.symm.trans (verify_refused inspected)
  | ok result =>
      obtain ⟨content, kind⟩ := result
      refine ⟨content, read_of_inspect inspected, ?_⟩
      cases blanks : stagedName? path with
      | none =>
          cases verified.symm.trans (verify_plain inspected blanks)
          exact Or.inl ⟨rfl, rfl, rfl⟩
      | some name =>
          rcases copied : stagedTree host path name content with ⟨error | _, tree⟩
          · cases verified.symm.trans (verify_unstaged inspected blanks copied)
          · obtain ⟨log, staged⟩ := verify_staged inspected blanks copied
            cases verified.symm.trans staged
            exact Or.inr ⟨name, tree, log, rfl, copied, rfl, rfl⟩

/-- The files with a copy that was made are those of the host with two more entries. -/
theorem stagedTree_eq_ok (copied : stagedTree host path name content = (.ok (), tree)) :
    ∃ place slashed copy,
      host.tree.target host.workDir (stagingPath host) = .ok (.named place slashed) ∧
      (host.tree.set place .directory).target host.workDir (Path.join (stagingPath host) name) =
        .ok (.named copy false) ∧
      tree = (host.tree.set place .directory).set copy (.file content) := by
  unfold stagedTree at copied
  cases makes : host.tree.makeDirectory host.storage host.workDir (stagingPath host) with
  | error cause =>
      rw [makes] at copied
      cases copied
  | ok made =>
      rw [makes] at copied
      dsimp only at copied
      split at copied
      · rename_i written
        cases copied
        obtain ⟨place, slashed, targeted, _, rfl⟩ := FileTree.makeDirectory_eq_ok makes
        obtain ⟨copy, targetedCopy, _, rfl⟩ := FileTree.write_eq_ok written
        exact ⟨place, slashed, copy, targeted, targetedCopy, rfl⟩
      · cases copied

/-- An image that two hosts with the same files accept is read from the same place there. -/
theorem verify_samePlace (same : SamePlace host other) (temp : other.tempDir = host.tempDir)
    (fresh : other.freshName = host.freshName) {otherImage : Image} {during otherDuring : Host}
    (verified : verify path host = (.ok image, during))
    (verifiedOther : verify path other = (.ok otherImage, otherDuring)) :
    otherImage.analyzedPath = image.analyzedPath ∧ SamePlace during otherDuring := by
  have sameDirectory : stagingPath other = stagingPath host := by
    rw [stagingPath, stagingPath, temp, fresh]
  obtain ⟨content, reads, here⟩ := verify_eq_ok verified
  obtain ⟨otherContent, readsOther, there⟩ := verify_eq_ok verifiedOther
  have sameContent : otherContent = content := by
    rw [Host.read, same.tree, same.workDir] at readsOther
    exact Except.ok.inj (readsOther.symm.trans reads)
  subst sameContent
  rcases here with ⟨plain, analyzed, rfl⟩ | ⟨name, tree, log, blanks, copied, analyzed, rfl⟩
  · rcases there with ⟨_, analyzedOther, rfl⟩ | ⟨_, _, _, blanksOther, _⟩
    · exact ⟨analyzedOther.trans analyzed.symm, same⟩
    · cases plain.symm.trans blanksOther
  · rcases there with ⟨plainOther, _⟩ | ⟨otherName, otherTree, _, blanksOther, copiedOther,
      analyzedOther, rfl⟩
    · cases plainOther.symm.trans blanks
    · cases blanks.symm.trans blanksOther
      obtain ⟨place, _, copy, targeted, targetedCopy, rfl⟩ := stagedTree_eq_ok copied
      obtain ⟨_, _, _, targetedOther, targetedOtherCopy, rfl⟩ := stagedTree_eq_ok copiedOther
      rw [same.tree, same.workDir, sameDirectory] at targetedOther targetedOtherCopy
      cases targeted.symm.trans targetedOther
      cases targetedCopy.symm.trans targetedOtherCopy
      refine ⟨?_, ?_, same.workDir, same.environment⟩
      · rw [analyzedOther, analyzed, sameDirectory]
      · show (other.tree.set place .directory).set copy _ = (host.tree.set place .directory).set copy _
        rw [same.tree]

end Image

end DeadSymbols
