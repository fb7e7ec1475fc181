import GreatCircle.GeoJson.Document
import GreatCircle.GeoJson.NamedRing
import GreatCircle.Main
import GreatCircle.Sphere.CountFault
import GreatCircle.Sphere.Move
import GreatCircle.SignedDouble
import GreatCircle.Proofs.Path.OneWayRoute
import GreatCircle.Proofs.Checked
import GreatCircle.Proofs.Sphere.Versor
import GreatCircle.Proofs.Sphere.VersorChain
import GreatCircle.Proofs.Settings.LayeredEnvironment
import GreatCircle.Proofs.Settings.LoadedEnvironment
import GreatCircle.Proofs.Sphere.PlaceOfDirection
import GreatCircle.Proofs.Command.LayeredPlan
import GreatCircle.Proofs.Sphere.ShortestRotation
import GreatCircle.Proofs.Sphere.ConstantSpeed
import GreatCircle.Proofs.Sphere.SubArc
import GreatCircle.Proofs.City.FirstFault
import GreatCircle.Proofs.Command.RunEnds
import GreatCircle.Proofs.Sphere.TwoQuaternions
import GreatCircle.Proofs.Map.PairTest
import GreatCircle.Proofs.Map.SeamLaws
import GreatCircle.Proofs.Map.SettledLine
import GreatCircle.Proofs.Map.Continuation
import GreatCircle.Proofs.Map.Spelling
import GreatCircle.Proofs.Map.Mirror
import GreatCircle.Proofs.Map.OneSide
import GreatCircle.Proofs.Map.FirstCut
import GreatCircle.Proofs.Map.NearestSide
import GreatCircle.Proofs.GeoJson.OutermostRing
import GreatCircle.Proofs.GeoJson.FailingFeature
import GreatCircle.Proofs.City.LastEntry
import GreatCircle.Proofs.City.WellFormedDocument
import GreatCircle.Proofs.City.PlaceLookup
import GreatCircle.Proofs.Sphere.SameVector
import GreatCircle.Proofs.Settings.WrittenLine
import GreatCircle.Proofs.Settings.BadVariable
import GreatCircle.Proofs.GeoJson.SameData
