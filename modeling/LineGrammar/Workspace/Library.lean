import LineGrammar.Definition.Command
import LineGrammar.Storage

/-!
# The library of commands

A few commands come with the program, in a file of their own.
-/

namespace LineGrammar.Library

/-- The name of the file of the library. -/
def fileName : String := "basic.yaml"

/-- The commands of the library. -/
def basic : CommandSet where
  schema := CommandSet.defaultSchema
  name := "basic"
  description := "Everyday chat commands"
  commands :=
    [{ name := "help"
       expression := "help [:topic]"
       description := "Show help, optionally for a topic"
       aliases := []
       examples := ["help", "help dice"] },
     { name := "roll"
       expression := "roll :count@+Integer [dice] [with :sides@+Integer sides]"
       description := "Roll some dice"
       aliases := ["dice :count@+Integer"]
       examples := ["roll 3 dice with 6 sides", "dice 2"] },
     { name := "say"
       expression := "say +message"
       description := "Say something"
       aliases := []
       examples := ["say hello there"] },
     { name := "invite"
       expression := "invite *users [to :channel]"
       description := "Invite one or more users"
       aliases := []
       examples := ["invite alice, bob to \"#general\""] },
     { name := "mode"
       expression := "mode :state\x7bon,off\x7d"
       description := "Switch a mode on or off"
       aliases := []
       examples := ["mode ON"] }]

/-- A storage with the library in a folder. -/
def install (folder : String) (storage : Storage) : Storage :=
  (storage.makeFolder folder).put (Path.join folder fileName)
    (.document (basic.described "schema"))

end LineGrammar.Library
