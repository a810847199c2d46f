import DeadSymbols.Method
import DeadSymbols.Ordered.NameSet

/-!
Contract: the selectors that are taken as used without a reference.

The built-in list holds the delegate and data source callbacks that UIKit, WebKit and Foundation
send by themselves, so that no reference to them stands in an image.
-/

namespace DeadSymbols.Whitelist

/-- The built-in list, in the order in which it is shown. -/
def builtIn : List String :=
  ["numberOfSectionsInCollectionView:",
   "collectionView:didHighlightItemAtIndexPath:",
   "collectionView:didSelectItemAtIndexPath:",
   "collectionView:didUnhighlightItemAtIndexPath:",
   "collectionView:layout:sizeForItemAtIndexPath:",
   "collectionView:shouldHighlightItemAtIndexPath:",
   "collectionView:shouldSelectItemAtIndexPath:",
   "collectionView:willDisplayCell:forItemAtIndexPath:",
   "collectionView:viewForSupplementaryElementOfKind:atIndexPath:",
   "collectionView:layout:minimumLineSpacingForSectionAtIndex:",
   teardownSelector,
   "tableView:numberOfRowsInSection:",
   "tableView:didSelectRowAtIndexPath:",
   "numberOfSectionsInTableView:",
   "tableView:titleForHeaderInSection:",
   "tableView:willDisplayCell:forRowAtIndexPath:",
   "tableView:willDisplayHeaderView:forSection:",
   "tableView:viewForFooterInSection:",
   "tableView:viewForHeaderInSection:",
   "tableView:heightForFooterInSection:",
   "tableView:heightForHeaderInSection:",
   "tableView:shouldShowMenuForRowAtIndexPath:",
   "tableView:shouldHighlightRowAtIndexPath:",
   "tableView:performAction:forRowAtIndexPath:withSender:",
   "tableView:canPerformAction:forRowAtIndexPath:withSender:",
   "tableView:canEditRowAtIndexPath:",
   "tableView:commitEditingStyle:forRowAtIndexPath:",
   "tableView:didEndEditingRowAtIndexPath:",
   "tableView:editingStyleForRowAtIndexPath:",
   "tableView:willBeginEditingRowAtIndexPath:",
   "gestureRecognizer:shouldReceiveTouch:",
   "gestureRecognizerShouldBegin:",
   "gestureRecognizer:shouldRecognizeSimultaneouslyWithGestureRecognizer:",
   "touchesShouldBegin:withEvent:inContentView:",
   "touchesShouldCancelInContentView:",
   "webView:didFailLoadWithError:",
   "webView:shouldStartLoadWithRequest:navigationType:",
   "webView:decidePolicyForNavigationAction:decisionHandler:",
   "webView:didFinishNavigation:",
   "webView:didReceiveServerRedirectForProvisionalNavigation:",
   "webView:didStartProvisionalNavigation:",
   "searchBarSearchButtonClicked:",
   "searchBarCancelButtonClicked:",
   "searchBarTextDidBeginEditing:",
   "searchBar:selectedScopeButtonIndexDidChange:",
   "searchBar:textDidChange:",
   "searchDisplayController:shouldReloadTableForSearchString:",
   "searchDisplayController:shouldReloadTableForSearchScope:",
   "searchDisplayController:willShowSearchResultsTableView:",
   "searchDisplayControllerWillBeginSearch:",
   "searchDisplayControllerWillEndSearch:",
   "searchDisplayControllerDidEndSearch:",
   "numberOfComponentsInPickerView:",
   "pickerView:titleForRow:forComponent:",
   "pickerView:widthForComponent:",
   "pickerView:didSelectRow:inComponent:",
   "pickerView:numberOfRowsInComponent:",
   "pickerView:viewForRow:forComponent:reusingView:",
   "alertView:didDismissWithButtonIndex:",
   "URLSession:didReceiveChallenge:completionHandler:",
   "URLSession:task:didReceiveChallenge:completionHandler:",
   "URLSession:didBecomeInvalidWithError:",
   "URLSession:task:needNewBodyStream:"]

end DeadSymbols.Whitelist
