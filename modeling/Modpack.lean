import Modpack.Main
import Modpack.Proofs.Engines
import Modpack.Proofs.FieldValues
import Modpack.Proofs.History
import Modpack.Proofs.HostRecords
import Modpack.Proofs.Idempotence
import Modpack.Proofs.ItemSteps
import Modpack.Proofs.Likeness
import Modpack.Proofs.ListStores
import Modpack.Proofs.NewItems
import Modpack.Proofs.Passes
import Modpack.Proofs.Patches
import Modpack.Proofs.Probes
import Modpack.Proofs.RecipeSteps
import Modpack.Proofs.Records
import Modpack.Proofs.Registries
import Modpack.Proofs.Repair
import Modpack.Proofs.Settled
import Modpack.Proofs.Skipping
import Modpack.Proofs.Tables
import Modpack.Proofs.Templates
import Modpack.Proofs.Views
import Modpack.Proofs.Indexes
import Modpack.Proofs.Numbering
import Modpack.Proofs.IconRetries
import Modpack.Proofs.BorrowedIcons
import Modpack.Proofs.Catalogs
import Modpack.Proofs.QuestHistory
import Modpack.Proofs.QuestProgress
import Modpack.Proofs.FailingEntries
import Modpack.Proofs.Workshops
import Modpack.Proofs.RootedItems
import Modpack.Proofs.IconNews
import Modpack.Proofs.ItemLabels
import Modpack.Proofs.DisplayStrings
import Modpack.Proofs.Keys
import Modpack.Proofs.Contents
import Modpack.Proofs.NumberRanges
import Modpack.Proofs.Overriding
import Modpack.Proofs.IndependentPasses
import Modpack.Proofs.FreshItems
import Modpack.Proofs.FreshRecipes
import Modpack.Proofs.LoadOrder
import Modpack.Proofs.QuestTexts
import Modpack.Proofs.NewItemRecords
import Modpack.Proofs.ByteOrder
import Modpack.Proofs.CheckCounts
import Modpack.Proofs.Listings
import Modpack.Proofs.PackageFolders
import Modpack.Proofs.IndependentFolders
import Modpack.Proofs.PatchedRecords
import Modpack.Proofs.RecipeRecords
import Modpack.Proofs.PassAccounts
import Modpack.Proofs.QuestEdges
import Modpack.Proofs.ItemReferences
import Modpack.Proofs.LowerCase
import Modpack.Proofs.IconCopies
import Modpack.Proofs.OwnNames
import Modpack.Proofs.StatEffects
import Modpack.Proofs.TrimmedCase
import Modpack.Proofs.StatNames
import Modpack.Proofs.OppositeNumbers
import Modpack.Proofs.RelativeEffects
import Modpack.Proofs.RecipeBooks
import Modpack.Proofs.FieldWrites
import Modpack.Proofs.Thresholds
import Modpack.Proofs.SharedLists
import Modpack.Proofs.DefinitionForms
