import PageScript.Command.Options
import PageScript.Files.Tree
import PageScript.Settings.Load

/-!
# What the command looks at

The command works on a tree in memory. These are the places that have to be in it: everything on the
way to the files it is given, and the settings files in the directories above the page.
-/

namespace PageScript.Command

/-- The places on the way of names from `here`, the last one included. -/
def visited (here : Files.Location) : List String → List Files.Location
  | [] => [here]
  | part :: rest => here :: visited (if part = ".." then here.dropLast else here ++ [part]) rest

/-- The places on the way of a path. -/
def visitedBy (workingDirectory : Files.Location) (path : Files.Path) : List Files.Location :=
  visited (path.start workingDirectory) path.parts

/-- The places where settings files of a page may be. -/
def settingsPlaces (workingDirectory : Files.Location) (source : Files.Path) :
    List Files.Location :=
  (Settings.upward (source.parent.resolve workingDirectory)).flatMap fun directory =>
    [directory, directory ++ [Settings.fileName], directory ++ [Settings.projectFileName]]

/-- The places that the command with these options looks at. -/
def Options.places (options : Options) (workingDirectory : Files.Location) :
    List Files.Location :=
  let paths := (options.source.toList ++ options.output.toList ++ options.config.join.toList).map
    Files.Path.ofText
  let sources := options.source.toList.map Files.Path.ofText
  (paths.flatMap (visitedBy workingDirectory) ++
    sources.flatMap (settingsPlaces workingDirectory)).eraseDups

end PageScript.Command
