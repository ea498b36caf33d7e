import InAppMessaging.Configuration

/-!
# Setting up logging

With file logging on, the log directory is made and a guard is returned that has to be kept
while logs are written, unless something else is installed to receive them already.

A directory is made together with the missing ones on the way to it.  Making it fails where a
regular file is in the way, where a name or the whole path is too long or holds U+0000, and
where a path that ends in `.` leads to a directory that is missing itself.

* `canMakeDirectory_of_isDirectory` — making a directory that is there succeeds.
-/

namespace InAppMessaging

/-! ## Making directories -/

/-- A place in a directory tree: the names that lead to it from the root of the tree. -/
abbrev Place := List String

/-- The most bytes a name may have. -/
def longestName : Nat := 255

/-- The most bytes a path may have. -/
def longestPath : Nat := 4095

/-- The steps of a path: names, and `..` for the way back. -/
def pathSteps (path : String) : List String :=
  (path.splitOn "/").filter fun part => part ≠ "" ∧ part ≠ "."

/-- The last part of a path is `.`. -/
def endsInDot (path : String) : Bool :=
  ((path.splitOn "/").filter (· ≠ "")).getLast? = some "."

/-- The path below a directory can be handed to the system at all. -/
def isPath (base path : String) : Bool :=
  decide (base.utf8ByteSize + 1 + path.utf8ByteSize ≤ longestPath) && !path.toList.contains '\x00'

/-- Walks through a tree with such regular files and directories.  What is missing is made if
`making` is set.  Returns the directories there are at the end, if every step leads into one. -/
def walk (making : Bool) (files : List Place) :
    List String → List Place → Place → Option (List Place)
  | [], directories, _ => some directories
  | step :: steps, directories, here =>
      if step = ".." then walk making files steps directories here.dropLast
      else if step.utf8ByteSize > longestName ∨ here ++ [step] ∈ files then none
      else if here ++ [step] ∈ directories then
        walk making files steps directories (here ++ [step])
      else if making then
        walk making files steps ((here ++ [step]) :: directories) (here ++ [step])
      else none

/-- A path below the directory `base`, which holds only regular files, is a directory. -/
def isDirectory (base : String) (files : List Place) (path : String) : Bool :=
  isPath base path && (walk false files (pathSteps path) [] []).isSome

/-- The directory at a path below `base` can be made, or is there.  The last step of a path
that ends in `.` is not made. -/
def canMakeDirectory (base : String) (files : List Place) (path : String) : Bool :=
  isPath base path &&
    ((walk true files
        (if endsInDot path then (pathSteps path).dropLast else pathSteps path) [] []).bind
      fun directories => walk false files (pathSteps path) directories []).isSome

/-- A walk that makes nothing leaves the directories as they are. -/
theorem walk_false_eq {files : List Place} :
    ∀ {steps : List String} {directories made : List Place} {here : Place},
      walk false files steps directories here = some made → made = directories
  | [], _, _, _, h => by simpa [walk] using h.symm
  | step :: steps, directories, made, here, h => by
      unfold walk at h
      split at h
      · exact walk_false_eq h
      · split at h
        · cases h
        · split at h
          · exact walk_false_eq h
          · simp at h

/-- Where nothing is missing, nothing is made. -/
theorem walk_true_of_walk_false {files : List Place} :
    ∀ {steps : List String} {directories made : List Place} {here : Place},
      walk false files steps directories here = some made →
        walk true files steps directories here = some made
  | [], _, _, _, h => by simpa [walk] using h
  | step :: steps, directories, made, here, h => by
      unfold walk at h ⊢
      split at h
      · next hs => rw [if_pos hs]; exact walk_true_of_walk_false h
      · next hs =>
          rw [if_neg hs]
          split at h
          · cases h
          · next hf =>
              rw [if_neg hf]
              split at h
              · next hd => rw [if_pos hd]; exact walk_true_of_walk_false h
              · simp at h

/-- Where a whole walk leads somewhere, all but its last step does. -/
theorem walk_false_dropLast {files : List Place} :
    ∀ {steps : List String} {directories made : List Place} {here : Place},
      walk false files steps directories here = some made →
        walk false files steps.dropLast directories here = some directories
  | [], _, _, _, _ => rfl
  | [_], _, _, _, _ => rfl
  | step :: next :: steps, directories, made, here, h => by
      rw [List.dropLast_cons_cons]
      unfold walk at h ⊢
      split at h
      · next hs => rw [if_pos hs]; exact walk_false_dropLast h
      · next hs =>
          rw [if_neg hs]
          split at h
          · cases h
          · next hf =>
              rw [if_neg hf]
              split at h
              · next hd => rw [if_pos hd]; exact walk_false_dropLast h
              · simp at h

/-- Making a directory that is there succeeds. -/
theorem canMakeDirectory_of_isDirectory {base : String} {files : List Place} {path : String}
    (h : isDirectory base files path = true) : canMakeDirectory base files path = true := by
  unfold isDirectory at h
  unfold canMakeDirectory
  obtain ⟨hp, hw⟩ := Bool.and_eq_true_iff.mp h
  obtain ⟨made, hmade⟩ := Option.isSome_iff_exists.mp hw
  have hsame := walk_false_eq hmade
  subst hsame
  rw [hp]
  split
  · rw [walk_true_of_walk_false (walk_false_dropLast hmade)]
    simp [hmade]
  · rw [walk_true_of_walk_false hmade]
    simp [hmade]

/-! ## The log directory -/

namespace Configuration

/-- Setting up logging makes the log directory, where it can be made. -/
def makesLogDirectory (c : Configuration) (creatable : Bool) : Bool :=
  c.behavior.tracing && c.behavior.fileLogging && creatable

/-- Setting up logging returns a guard. -/
def returnsGuard (c : Configuration) (creatable installed : Bool) : Bool :=
  c.makesLogDirectory creatable && !installed

end Configuration

end InAppMessaging
