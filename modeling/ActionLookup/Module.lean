import ActionLookup.Accessor.Draft

namespace ActionLookup

open Text

structure Module where
  fileName : String
  bodies : PerTag String
  source : String
  deriving DecidableEq, Repr

namespace Module

def usings : List String :=
  ["using System;", "using System.Collections;", "using System.Collections.Generic;",
    "using UnityEngine;", "using UnityEngine.InputSystem;"]

def closed (ending : LineEnding) (line : String) : String := line ++ ending.text

def concat (parts : List String) : String := parts.foldr (fun part rest => part ++ rest) ""

def opening (schema : Schema) (settings : Settings) : List String :=
  let classIndent := tabs settings.classDepth
  let memberIndent := tabs settings.memberDepth
  usings
    ++ (match settings.enclosing with
        | none => []
        | some name => [s!"namespace {name}", "\x7b"])
    ++ [s!"{classIndent}public static class {settings.className} : object",
        classIndent ++ "\x7b",
        s!"{memberIndent}public static {schema.className} {schema.holder} = new();",
        ""]

def closing (settings : Settings) : List String :=
  [tabs settings.classDepth ++ "\x7d"]
    ++ (if settings.enclosing.isSome then ["\x7d"] else [])
    ++ [""]

def render (schema : Schema) (settings : Settings) (bodies : PerTag String) : String :=
  let close := closed settings.lineEnding
  concat ((opening schema settings).map close)
    ++ concat (bodies.toList.map close)
    ++ concat ((closing settings).map close)

end Module

end ActionLookup
