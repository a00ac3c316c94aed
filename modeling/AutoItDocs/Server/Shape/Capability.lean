import AutoItDocs.Server.Shape.Content
/-!
Shapes of what an editor says that it can do when it starts a session.
-/
namespace AutoItDocs.Shape

def optionalTruth : Shape := .optional .truth

/-- A capability of which an editor only says whether some things are there, by their names. -/
def flags (names : List String) : List (String × Shape) := names.map (·, optionalTruth)

def support (fields : List (String × Shape)) : Shape := .optional (.record fields)

/-- A capability that may be registered later. -/
def registrable (fields : List (String × Shape)) : Shape :=
  support (("dynamicRegistration", optionalTruth) :: fields)

def registrableFlags (names : List String) : Shape := registrable (flags names)

def refreshable : Shape := support (flags ["refreshSupport"])

/-- The properties that may be filled in later. -/
def resolvable : Shape := support [("properties", texts)]

/-- The numbers that an editor knows; older ones only said whether they know any. -/
def tagSupport : Shape := .omissible (.either optionalTruth (.record [("valueSet", numbers)]))

def symbolKinds : Shape := support [("valueSet", .optional numbers)]

def markupKinds : Shape := .optional (.list markupKind)

def workspaceCapabilities : Shape :=
  .record [
    ("applyEdit", optionalTruth),
    ("workspaceEdit", support [
      ("documentChanges", optionalTruth),
      ("resourceOperations", .optional (.list (.oneOf ["create", "rename", "delete"]))),
      ("failureHandling",
        .optional (.oneOf ["abort", "transactional", "textOnlyTransactional", "undo"])),
      ("normalizesLineEndings", optionalTruth),
      ("changeAnnotationSupport", support (flags ["groupsOnLabel"]))]),
    ("didChangeConfiguration", registrable []),
    ("didChangeWatchedFiles", registrableFlags ["relativePatternSupport"]),
    ("symbol", registrable [
      ("symbolKind", symbolKinds), ("tagSupport", tagSupport), ("resolveSupport", resolvable)]),
    ("executeCommand", registrable []),
    ("workspaceFolders", optionalTruth),
    ("configuration", optionalTruth),
    ("semanticTokens", refreshable),
    ("codeLens", refreshable),
    ("fileOperations", registrableFlags
      ["didCreate", "willCreate", "didRename", "willRename", "didDelete", "willDelete"]),
    ("inlineValue", refreshable),
    ("inlayHint", refreshable),
    ("diagnostic", refreshable)]

def completionCapabilities : Shape :=
  registrable [
    ("completionItem", support (
      flags ["snippetSupport", "commitCharactersSupport"] ++
      [("documentationFormat", markupKinds)] ++
      flags ["deprecatedSupport", "preselectSupport"] ++
      [("tagSupport", tagSupport)] ++
      flags ["insertReplaceSupport"] ++
      [("resolveSupport", resolvable), ("insertTextModeSupport", support [("valueSet", numbers)])] ++
      flags ["labelDetailsSupport"])),
    ("completionItemKind", symbolKinds),
    ("contextSupport", optionalTruth),
    ("insertTextMode", .optional .signed),
    ("completionList", support [("itemDefaults", .optional texts)])]

def signatureHelpCapabilities : Shape :=
  registrable [
    ("signatureInformation", support [
      ("documentationFormat", markupKinds),
      ("parameterInformation", support (flags ["labelOffsetSupport"])),
      ("activeParameterSupport", optionalTruth)]),
    ("contextSupport", optionalTruth)]

def codeActionCapabilities : Shape :=
  registrable (
    [("codeActionLiteralSupport", support [("codeActionKind", .record [("valueSet", texts)])])] ++
    flags ["isPreferredSupport", "disabledSupport", "dataSupport"] ++
    [("resolveSupport", resolvable)] ++
    flags ["honorsChangeAnnotations"])

def foldingCapabilities : Shape :=
  registrable [
    ("rangeLimit", .optional .unsigned),
    ("lineFoldingOnly", optionalTruth),
    ("foldingRangeKind",
      support [("valueSet", .optional (.list (.oneOf ["comment", "imports", "region"])))]),
    ("foldingRange", support (flags ["collapsedText"]))]

def semanticTokenCapabilities : Shape :=
  registrable ([
    ("requests", .record [
      ("range", optionalTruth),
      ("full", .optional (.either .truth (.object (flags ["delta"]))))]),
    ("tokenTypes", texts),
    ("tokenModifiers", texts),
    ("formats", texts)] ++
    flags ["overlappingTokenSupport", "multilineTokenSupport", "serverCancelSupport",
      "augmentsSyntaxTokens"])

def documentCapabilities : Shape :=
  let linked := registrableFlags ["linkSupport"]
  .record [
    ("synchronization", registrableFlags ["willSave", "willSaveWaitUntil", "didSave"]),
    ("completion", completionCapabilities),
    ("hover", registrable [("contentFormat", markupKinds)]),
    ("signatureHelp", signatureHelpCapabilities),
    ("references", registrable []),
    ("documentHighlight", registrable []),
    ("documentSymbol", registrable [
      ("symbolKind", symbolKinds), ("hierarchicalDocumentSymbolSupport", optionalTruth),
      ("tagSupport", tagSupport)]),
    ("formatting", registrable []),
    ("rangeFormatting", registrable []),
    ("onTypeFormatting", registrable []),
    ("declaration", linked),
    ("definition", linked),
    ("typeDefinition", linked),
    ("implementation", linked),
    ("codeAction", codeActionCapabilities),
    ("codeLens", registrable []),
    ("documentLink", registrableFlags ["tooltipSupport"]),
    ("colorProvider", registrable []),
    ("rename", registrable (flags ["prepareSupport"] ++
      [("prepareSupportDefaultBehavior", .optional .signed)] ++
      flags ["honorsChangeAnnotations"])),
    ("publishDiagnostics", support (flags ["relatedInformation"] ++
      [("tagSupport", tagSupport)] ++
      flags ["versionSupport", "codeDescriptionSupport", "dataSupport"])),
    ("foldingRange", foldingCapabilities),
    ("selectionRange", registrable []),
    ("linkedEditingRange", registrable []),
    ("callHierarchy", registrable []),
    ("semanticTokens", semanticTokenCapabilities),
    ("moniker", registrable []),
    ("typeHierarchy", registrable []),
    ("inlineValue", registrable []),
    ("inlayHint", registrable [("resolveSupport", resolvable)]),
    ("diagnostic", registrableFlags ["relatedDocumentSupport"])]

def windowCapabilities : Shape :=
  .record [
    ("workDoneProgress", optionalTruth),
    ("showMessage",
      support [("messageActionItem", support (flags ["additionalPropertiesSupport"]))]),
    ("showDocument", support [("support", .truth)])]

def generalCapabilities : Shape :=
  .record [
    ("regularExpressions", support [("engine", .text), ("version", .optional .text)]),
    ("markdown", support [
      ("parser", .text), ("version", .optional .text), ("allowedTags", .optional texts)]),
    ("staleRequestSupport", support [("cancel", .truth), ("retryOnContentModified", texts)]),
    ("positionEncodings", .optional texts)]

def capabilities : Shape :=
  .record [
    ("workspace", .optional workspaceCapabilities),
    ("textDocument", .optional documentCapabilities),
    ("window", .optional windowCapabilities),
    ("general", .optional generalCapabilities),
    ("experimental", .optional .any)]

end AutoItDocs.Shape
