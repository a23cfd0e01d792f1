import PageScript.CSharp.Module
import PageScript.Compile.Page
import PageScript.Files.Content

/-!
# Compiling a page in a file

A page that is not there counts as one without blocks, with a warning. The page goes by the name of
its file.
-/

namespace PageScript.Compile

/-- Why a page cannot be read. -/
inductive PageFault where
  | file (fault : Files.Fault)
  | text (fault : Files.TextFault)

def PageFault.message : PageFault → String
  | .file fault => fault.message
  | .text fault => fault.message

/-- The text of a page. -/
def readPage (tree : Files.Tree) (path : Files.Path) : Except PageFault String := do
  let bytes ← (tree.read path).mapError PageFault.file
  (Files.pageText bytes).mapError PageFault.text

/-- The blocks of a page. -/
def readBlocks (tree : Files.Tree) (path : Files.Path) (scriptType : String) :
    Noted (Except PageFault (List Page.Block)) :=
  match tree.look path with
  | .error fault => (.error (.file fault), [])
  | .ok none => (.ok [], [.pageMissing path.toText])
  | .ok (some _) =>
    match readPage tree path with
    | .error fault => (.error fault, [])
    | .ok page =>
      let blocks := Page.blocks scriptType page
      (.ok blocks, [.blocksFound blocks.length scriptType])

/-- The program of a plan. -/
def render (settings : Settings) (plan : Plan) : Noted (Except Report String) :=
  match CSharp.moduleText settings plan with
  | .error report => (.error report, [])
  | .ok text =>
    (.ok text, [.rendered plan.blocks.length settings.nameSpace settings.className])

end PageScript.Compile
