import SwiftSource.ControlFlow
import SwiftSource.Conventions.Load
import SwiftSource.Declaration.Draft
import SwiftSource.Declaration.Imports
import SwiftSource.Proofs.BraceNesting
import SwiftSource.Proofs.DateStamp
import SwiftSource.Proofs.DraftMeaning
import SwiftSource.Proofs.Emission
import SwiftSource.Proofs.FilePlacement
import SwiftSource.Proofs.ImportManifest
import SwiftSource.Proofs.MemberwiseInit
import SwiftSource.Proofs.Store.Runs
import SwiftSource.Proofs.TypeLayout
import SwiftSource.SourceFile
import SwiftSource.Store
import SwiftSource.Proofs.FlooredLevel
import SwiftSource.Proofs.FlowLayout
import SwiftSource.Proofs.Splicing
import SwiftSource.Proofs.MethodLayout
import SwiftSource.Proofs.FieldValues
import SwiftSource.Proofs.HiddenParts
import SwiftSource.Proofs.Condition.Reading
import SwiftSource.Proofs.AdoptedProtocols
import SwiftSource.Proofs.Comments
import SwiftSource.Proofs.TypeReading
import SwiftSource.Proofs.CleaningLaws
import SwiftSource.Proofs.BannerComment
