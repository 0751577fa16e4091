import TypeProjection.Annotation.Arguments
import TypeProjection.Annotation.Display
import TypeProjection.Annotation.Evaluate
import TypeProjection.Annotation.Fault
import TypeProjection.Annotation.Library
import TypeProjection.Annotation.Parser
import TypeProjection.Annotation.Reference
import TypeProjection.Annotation.Syntax
import TypeProjection.Annotation.Types
import TypeProjection.Annotation.Value
import TypeProjection.Annotation.World
import TypeProjection.Command.Arguments
import TypeProjection.Command.Fault
import TypeProjection.Command.Run
import TypeProjection.Command.Watch
import TypeProjection.Declaration
import TypeProjection.Definition.Bases
import TypeProjection.Definition.Basic
import TypeProjection.Definition.ClassBuilding
import TypeProjection.Definition.DataClass
import TypeProjection.Definition.Enumeration
import TypeProjection.Definition.Reader
import TypeProjection.Definition.Run
import TypeProjection.Distinct
import TypeProjection.Event
import TypeProjection.Files.Bundle
import TypeProjection.Files.Fault
import TypeProjection.Files.Sources
import TypeProjection.Files.Templates
import TypeProjection.Files.Tree
import TypeProjection.Generation
import TypeProjection.Graph
import TypeProjection.Json.Basic
import TypeProjection.Json.Reader
import TypeProjection.Literal
import TypeProjection.Main
import TypeProjection.Number.Binary64
import TypeProjection.Options
import TypeProjection.Pairs
import TypeProjection.Path
import TypeProjection.Primitive
import TypeProjection.Proofs.AnnotationKeys
import TypeProjection.Proofs.ArgumentCounts
import TypeProjection.Proofs.BareWorld
import TypeProjection.Proofs.BaseOrder
import TypeProjection.Proofs.Building
import TypeProjection.Proofs.Coherence
import TypeProjection.Proofs.Declaring
import TypeProjection.Proofs.Descent
import TypeProjection.Proofs.Discipline
import TypeProjection.Proofs.GrownWorlds
import TypeProjection.Proofs.Growth
import TypeProjection.Proofs.Header
import TypeProjection.Proofs.HeaderPaths
import TypeProjection.Proofs.Heritage
import TypeProjection.Proofs.HeritageNames
import TypeProjection.Proofs.Hierarchy
import TypeProjection.Proofs.LoadedWorlds
import TypeProjection.Proofs.Needs
import TypeProjection.Proofs.Outcome
import TypeProjection.Proofs.Population
import TypeProjection.Proofs.Quotation
import TypeProjection.Proofs.Reading
import TypeProjection.Proofs.Record
import TypeProjection.Proofs.Reference
import TypeProjection.Proofs.ReferenceGrammar
import TypeProjection.Proofs.Respelling
import TypeProjection.Proofs.SoundClasses
import TypeProjection.Proofs.SoundEvaluation
import TypeProjection.Proofs.SoundRuns
import TypeProjection.Proofs.SoundValues
import TypeProjection.Proofs.Termination
import TypeProjection.Proofs.TextFree
import TypeProjection.Proofs.TextResolution
import TypeProjection.Proofs.TextUnions
import TypeProjection.Proofs.Traversal
import TypeProjection.Proofs.TypeArguments
import TypeProjection.Registry
import TypeProjection.Rendering
import TypeProjection.Session.Fault
import TypeProjection.Session.Import
import TypeProjection.Session.Inputs
import TypeProjection.Settings.Basic
import TypeProjection.Settings.Configuration
import TypeProjection.Settings.EnvFile
import TypeProjection.Settings.TypeMap
import TypeProjection.Supertypes
import TypeProjection.Template.Check
import TypeProjection.Template.Evaluate
import TypeProjection.Template.Fault
import TypeProjection.Template.Filter
import TypeProjection.Template.Operators
import TypeProjection.Template.Parser
import TypeProjection.Template.Syntax
import TypeProjection.Template.Token
import TypeProjection.Template.Value
import TypeProjection.Text.Blank
import TypeProjection.Text.Case
import TypeProjection.Text.CodeTable
import TypeProjection.Text.Identifier
import TypeProjection.Text.Pattern.Basic
import TypeProjection.Text.Pattern.Parser
import TypeProjection.Text.Printable
import TypeProjection.Text.Quoted
import TypeProjection.Text.Utf8
import TypeProjection.Text.Wildcard
import TypeProjection.Text.Word
import TypeProjection.Universe
import TypeProjection.Walk
import TypeProjection.Proofs.BoundNames
import TypeProjection.Proofs.SkippedTypes
import TypeProjection.Proofs.AddedSkips
import TypeProjection.Proofs.TwinModules
import TypeProjection.Proofs.MirroredUniverses
import TypeProjection.Proofs.RenamedArguments
import TypeProjection.Proofs.RenamedClasses
import TypeProjection.Proofs.WatchedOutput
import TypeProjection.Proofs.OwnModules
import TypeProjection.Proofs.DeclaredOnce
import TypeProjection.Proofs.InterfaceSwitch
import TypeProjection.Proofs.SingleShapes
import TypeProjection.Proofs.InputFiles
import TypeProjection.Proofs.AffectedMembers
import TypeProjection.Proofs.ChosenNames
import TypeProjection.Proofs.PackagedLayout
import TypeProjection.Proofs.MemberNames
import TypeProjection.Proofs.UnionParts
import TypeProjection.Proofs.ConstraintMeanings
import TypeProjection.Proofs.FoundFiles
import TypeProjection.Proofs.InputFailures
import TypeProjection.Proofs.TypeMapFiles
import TypeProjection.Proofs.EnumLiterals
import TypeProjection.Proofs.EqualValues
import TypeProjection.Proofs.DescriptorKeys
import TypeProjection.Proofs.SoloRuns
import TypeProjection.Proofs.SupertypeOrders
import TypeProjection.Proofs.FreshRounds
import TypeProjection.Proofs.FreshReloads
